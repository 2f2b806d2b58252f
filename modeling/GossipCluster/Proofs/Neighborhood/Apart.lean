import GossipCluster.Proofs.Neighborhood.Basic
import GossipCluster.Proofs.Node.Seclusion

namespace GossipCluster.Neighborhood

variable {ι : Type} {hosts : ι → Set Host} {σ σ₀ σ' : Neighborhood ι} {i j : ι} {asker : Option ι} {input : Input}

-- Nodes that share an address belong together.
def Seated (σ : Neighborhood ι) : Prop := ∀ i j, σ.address i = σ.address j → σ.name i = σ.name j

def Homebound (hosts : ι → Set Host) (σ : Neighborhood ι) (i : ι) : Prop :=
  ∀ j, σ.address j ∈ lookout hosts i → σ.name j = σ.name i

structure Stray (hosts : ι → Set Host) (σ : Neighborhood ι) (i : ι) : Prop where
  joins  : ∀ host ∈ hosts i, host.seeds.isBootstrap (σ.address i) = false
  abroad : ∀ j, σ.address j ∈ lookout hosts i → σ.name j ≠ σ.name i

def realm (seated : σ.Seated) (i : ι) : Realm where
  name      := σ.name i
  seat      := σ.address i
  addresses := {a | ∀ j, σ.address j = a → σ.name j = σ.name i}
  seated    := fun j same => seated j i same

-- Whoever has asked node `i` for something is of the same name.
def Friends (σ : Neighborhood ι) (i : ι) (asker : Option ι) : Prop := ∀ j, asker = some j → σ.name j = σ.name i

-- What is known of a neighborhood that has come of `σ₀`, all of whose nodes keep to their own.
structure Sound (hosts : ι → Set Host) (seated : σ₀.Seated) (σ : Neighborhood ι) : Prop where
  resides : ∀ i, (σ.node i).Resides (realm seated i)
  settled : ∀ i, (σ.node i).phase = .up → Homebound hosts σ₀ i
  said    : ∀ s ∈ σ.said, s.effect.Discreet (realm seated s.author) (σ₀.Friends s.author s.asker)

variable {seated : σ₀.Seated}

theorem natives_realm (same : σ₀.name i = σ₀.name j) : (realm seated i).natives = (realm seated j).natives := by
  simp only [Realm.natives, realm, same]

namespace Sound

theorem address_eq (h : Sound hosts seated σ) (i : ι) : σ.address i = σ₀.address i :=
  congrArg Prod.snd (h.resides i).self

theorem name_eq (h : Sound hosts seated σ) (i : ι) : σ.name i = σ₀.name i := (h.resides i).name

-- Whoever lets a node in bears its name.
theorem of_welcomed (h : Sound hosts seated σ) {answer : Except Error Message} {seed : String} {v : View}
    (answered : σ.Answered hosts i answer) (ok : JoinAttempt.outcome seed answer = .ok v) :
    ∃ j, σ₀.address j ∈ lookout hosts i ∧ σ₀.name j = σ₀.name i ∧ v.imprints ⊆ (realm seated i).natives := by
  cases answer with
  | error => exact nomatch ok
  | ok m =>
    cases m with
    | joinResponse w =>
      obtain rfl := Except.ok.inj ok
      obtain ⟨j, asked, done⟩ := answered _ rfl
      obtain ⟨native, friends⟩ := h.said _ done
      have same : σ₀.name i = σ₀.name j := friends i rfl
      exact ⟨j, h.address_eq j ▸ asked, same.symm, natives_realm same ▸ native⟩
    | _ => exact nomatch ok

theorem of_searched (h : Sound hosts seated σ) {answers : List (Except Error Message)} {v : View}
    (homebound : Homebound hosts σ₀ i) (answered : ∀ a ∈ answers, σ.Answered hosts i a)
    (found : v ∈ answers.filterMap Message.view?) : v.imprints ⊆ (realm seated i).natives := by
  obtain ⟨answer, mem, found⟩ := List.mem_filterMap.mp found
  cases answer with
  | error => exact nomatch found
  | ok m =>
    cases m with
    | viewResponse w =>
      obtain rfl : w = v := Option.some_inj.mp found
      obtain ⟨j, asked, done⟩ := answered _ mem _ rfl
      have same : σ₀.name j = σ₀.name i := homebound j (h.address_eq j ▸ asked)
      exact natives_realm same ▸ h.said _ done
    | _ => exact nomatch found

theorem harmless (h : Sound hosts seated σ) (available : σ.Available hosts i asker input) :
    input.Harmless (realm seated i) (σ₀.Friends i asker) (σ.node i) := by
  cases available with
  | tick => trivial
  | @letter j _ _ m sender _ done target =>
    have discreet := h.said _ done
    cases m with
    | gossip v =>
      obtain ⟨native, near⟩ := discreet
      have same : σ₀.name i = σ₀.name j := near _ target i (h.address_eq i).symm
      exact native.trans (natives_realm same).superset
    | joinRequest | joinResponse => exact discreet.elim
    | _ => trivial
  | @joinRequest j _ _ self _ _ done asked =>
    intro name
    have native := h.said _ done
    have same : σ₀.name j = σ₀.name i := native.1.symm.trans name
    refine ⟨natives_realm same ▸ native, fun k e => ?_, rfl⟩
    exact Option.some_inj.mp e ▸ same
  | search => trivial
  | request e views members =>
    obtain ⟨sender, message, expectsReply⟩ := e
    cases message with
    | gossip | joinResponse => exact nomatch views
    | joinRequest => exact nomatch members
    | _ => trivial
  | @joined _ number _ _ answer seed _ answered =>
    cases ok : JoinAttempt.outcome seed answer with
    | error => trivial
    | ok v =>
      have ⟨_, _, _, native⟩ := h.of_welcomed answered ok
      exact native
  | searched answered =>
    exact fun up v found => h.of_searched (h.settled i (of_decide_eq_true up)) answered found

-- Who has nobody of its own to ask is let in nowhere.
theorem homebound_of_admits (h : Sound hosts seated σ) (kind : Homebound hosts σ₀ i ∨ Stray hosts σ₀ i)
    (available : σ.Available hosts i asker input) {v : View} {phase : Phase} (admits : input.Admits v phase) :
    Homebound hosts σ₀ i := by
  refine kind.resolve_right fun stray => ?_
  rcases admits.eq with ⟨attempt, eq⟩ | ⟨e, eq, welcome⟩
  · cases available with
    | joined seed _ answered =>
      have ⟨j, near, same, _⟩ := h.of_welcomed answered (Input.joinOutcome.inj eq).2
      exact stray.abroad j near same
    | _ => exact nomatch eq
  · cases available with
    | letter sender expectsReply done =>
      obtain rfl := (Input.envelope.inj eq).symm
      obtain rfl : _ = Message.joinResponse v := welcome
      exact h.said _ done
    | request _ views =>
      obtain rfl := Input.envelope.inj eq
      rw [welcome] at views
      exact nomatch views
    | joinRequest | search =>
      obtain rfl := (Input.envelope.inj eq).symm
      exact nomatch welcome
    | _ => exact nomatch eq

theorem take [DecidableEq ι] (h : Sound hosts seated σ) {t : Turn}
    (secluded : t.Secluded (realm seated i) (σ₀.Friends i asker))
    (settled : t.node.phase = .up → Homebound hosts σ₀ i) :
    Sound hosts seated (σ.take i asker (t.node, t.effects)) := by
  constructor
  case resides => exact forall_node_take h.resides secluded.resides
  case settled => exact forall_node_take (P := fun j n => n.phase = .up → Homebound hosts σ₀ j) h.settled settled
  case said =>
    intro s done
    rcases List.mem_append.mp done with old | new
    · exact h.said s old
    · obtain ⟨x, mem, rfl⟩ := List.mem_map.mp new
      exact secluded.said x mem

theorem step [DecidableEq ι] (h : Sound hosts seated σ) (kinds : ∀ i, Homebound hosts σ₀ i ∨ Stray hosts σ₀ i)
    (step : Step hosts σ σ') : Sound hosts seated σ' := by
  cases step with
  | @start i host found =>
    have secluded : Turn.Secluded (realm seated i) (σ₀.Friends i none) ⟨host, σ.node i, []⟩ := ⟨h.resides i, nofun⟩
    refine h.take secluded.start fun up => (kinds i).resolve_right fun stray => ?_
    have joins : host.seeds.isBootstrap (σ.address i) = false := h.address_eq i ▸ stray.joins host found
    exact absurd (Turn.phase_start_iff.mp up) (Bool.not_eq_true _ ▸ joins)
  | @turn i host asker input found _ available =>
    have secluded : Turn.Secluded (realm seated i) (σ₀.Friends i asker) ⟨host, σ.node i, []⟩ := ⟨h.resides i, nofun⟩
    have near (up : (σ.node i).isUp) : ∀ a ∈ host.seeds.addresses, a ∈ (realm seated i).addresses := by
      rintro _ known j rfl
      exact h.settled i (of_decide_eq_true up) j ⟨host, found, known⟩
    refine h.take (secluded.run near (h.harmless available)) fun up => ?_
    rcases Turn.Does.run.up up with before | ⟨_, admits⟩
    · exact h.settled i before
    · exact h.homebound_of_admits (kinds i) available admits

theorem reachable [DecidableEq ι] (h : Sound hosts seated σ) (kinds : ∀ i, Homebound hosts σ₀ i ∨ Stray hosts σ₀ i)
    (run : Reachable hosts σ σ') : Sound hosts seated σ' := by
  induction run with
  | refl => exact h
  | tail _ step ih => exact ih.step kinds step

end Sound

theorem Initial.sound (initial : σ₀.Initial) : Sound hosts seated σ₀ := by
  constructor
  case resides =>
    intro i
    obtain ⟨_, _, _, created⟩ := initial.created i
    obtain ⟨fresh, rfl, named⟩ := Node.of_create created
    have self : (σ₀.node i).self.site = ((realm seated i).name, (realm seated i).seat) := Prod.ext named rfl
    refine ⟨rfl, self, fun p hp => ?_⟩
    obtain ⟨m, known, rfl⟩ := hp
    rw [fresh.members] at known
    exact List.mem_singleton.mp known ▸ Turn.mem_natives_of_site self
  case settled =>
    intro i up
    obtain ⟨_, _, _, created⟩ := initial.created i
    exact nomatch (Node.fresh_of_create created).phase.symm.trans up
  case said =>
    intro s done
    exact nomatch initial.said ▸ done

theorem clusters_apart [DecidableEq ι] (initial : σ₀.Initial) (seated : σ₀.Seated)
    (kinds : ∀ i, Homebound hosts σ₀ i ∨ Stray hosts σ₀ i) (run : Reachable hosts σ₀ σ) (i : ι) :
    ∀ m ∈ (σ.node i).view.members.rows, m.cluster = (σ.node i).config.clusterName := by
  intro m known
  have sound : Sound hosts seated σ := initial.sound.reachable kinds run
  have native : m.imprint ∈ (realm seated i).natives := (sound.resides i).view (Member.imprint_mem known)
  exact native.1.trans (sound.name_eq i).symm

-- Of two nodes that look for others at the same place one is let in. The other one is of another name.
theorem clusters_apart_refused : ∃ (hosts : Fin 3 → Set Host) (σ₀ σ : Neighborhood (Fin 3)),
    σ₀.Initial ∧ Reachable hosts σ₀ σ ∧ lookout hosts 1 = lookout hosts 2 ∧ (σ.node 0).view.contains "b" ∧
      (σ.node 1).view.contains "a" ∧ ∀ i, ∀ m ∈ (σ.node i).view.members.rows,
        m.cluster = (σ.node i).config.clusterName := by
  let config (id cluster : String) : Config :=
    { clusterName := cluster, node := { id := id, address := id ++ ":1" }, failure := { crossTimeout := some (.ofMillis 200) } }
  let host (_ : Fin 3) : Host := ⟨0, 0, ⟨[⟨"a:1", none⟩], []⟩, fun _ targets => targets, []⟩
  let σ₀ (a b c : Node) : Neighborhood (Fin 3) := ⟨![a, b, c], fun _ => false, []⟩
  let moves : List (Move (Fin 3)) :=
    [.start 0, .start 1, .start 2, .joinRequest 0 20, .joined 1 20 27, .joinRequest 0 26, .joined 2 26 49,
      .tick 0 .gossip]
  have ⟨a, b, c, ha, hb, hc, seated, home, away, played⟩ : ∃ a b c, Node.create (config "a" "x") 0 0 = .ok (some a) ∧
      Node.create (config "b" "x") 0 0 = .ok (some b) ∧ Node.create (config "c" "y") 0 0 = .ok (some c) ∧
      (∀ i j, (σ₀ a b c).address i = (σ₀ a b c).address j → (σ₀ a b c).name i = (σ₀ a b c).name j) ∧
      (∀ i < 2, ∀ j, (σ₀ a b c).address j ∈ (host i).seeds.addresses → (σ₀ a b c).name j = (σ₀ a b c).name i) ∧
      ((host 2).seeds.isBootstrap ((σ₀ a b c).address 2) = false ∧
        ∀ j, (σ₀ a b c).address j ∈ (host 2).seeds.addresses → (σ₀ a b c).name j ≠ (σ₀ a b c).name 2) ∧
      ((σ₀ a b c).play? host moves).any fun σ => (σ.node 0).view.contains "b" ∧ (σ.node 1).view.contains "a" :=
    ⟨_, _, _, rfl, rfl, rfl, by decide +kernel, by decide +kernel, by decide +kernel, by decide +kernel⟩
  obtain ⟨σ, run, facts⟩ := (Option.any_eq_true ..).mp played
  have initial : (σ₀ a b c).Initial := by
    refine ⟨fun i => ?_, rfl, rfl⟩
    fin_cases i
    · exact ⟨_, _, _, ha⟩
    · exact ⟨_, _, _, hb⟩
    · exact ⟨_, _, _, hc⟩
  have kinds (i) : Homebound (fun i => {host i}) (σ₀ a b c) i ∨ Stray (fun i => {host i}) (σ₀ a b c) i := by
    by_cases kind : i < 2
    case pos => exact .inl fun j near => home i kind j (mem_lookout_iff.mp near)
    case neg =>
      obtain rfl : i = 2 := by omega
      exact .inr ⟨by rintro _ rfl; exact away.1, fun j near => away.2 j (mem_lookout_iff.mp near)⟩
  have reached := reachable_of_play? run
  obtain ⟨first, second⟩ := of_decide_eq_true facts
  exact ⟨_, σ₀ a b c, σ, initial, reached, rfl, first, second, clusters_apart initial seated kinds reached⟩

-- A founder that looks for others at another founder as well tells it of itself.
theorem clusters_mixed : ∃ (hosts : Fin 2 → Set Host) (σ₀ σ : Neighborhood (Fin 2)),
    σ₀.Initial ∧ σ₀.Seated ∧ Reachable hosts σ₀ σ ∧
      ∃ i, ∃ m ∈ (σ.node i).view.members.rows, m.cluster ≠ (σ.node i).config.clusterName := by
  let config (id cluster : String) : Config :=
    { clusterName := cluster, node := { id := id, address := id ++ ":1" }, failure := { crossTimeout := some (.ofMillis 200) } }
  let host (i : Fin 2) : Host :=
    ⟨0, 0, ⟨if i = 0 then [⟨"a:1", none⟩, ⟨"b:1", none⟩] else [⟨"b:1", none⟩], []⟩, fun _ targets => targets, []⟩
  let σ₀ (a b : Node) : Neighborhood (Fin 2) := ⟨![a, b], fun _ => false, []⟩
  let moves : List (Move (Fin 2)) := [.start 0, .start 1, .tick 0 .gossip, .letter 1 30]
  have ⟨a, b, ha, hb, seated, played⟩ : ∃ a b, Node.create (config "a" "x") 0 0 = .ok (some a) ∧
      Node.create (config "b" "y") 0 0 = .ok (some b) ∧
      (∀ i j, (σ₀ a b).address i = (σ₀ a b).address j → (σ₀ a b).name i = (σ₀ a b).name j) ∧
      ((σ₀ a b).play? host moves).any fun σ =>
        ∃ i, ∃ m ∈ (σ.node i).view.members.rows, m.cluster ≠ (σ.node i).config.clusterName :=
    ⟨_, _, rfl, rfl, by decide +kernel, by decide +kernel⟩
  obtain ⟨σ, run, facts⟩ := (Option.any_eq_true ..).mp played
  have initial : (σ₀ a b).Initial := by
    refine ⟨fun i => ?_, rfl, rfl⟩
    fin_cases i
    · exact ⟨_, _, _, ha⟩
    · exact ⟨_, _, _, hb⟩
  exact ⟨_, σ₀ a b, σ, initial, seated, reachable_of_play? run, of_decide_eq_true facts⟩

end GossipCluster.Neighborhood
