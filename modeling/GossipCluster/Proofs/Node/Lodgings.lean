import GossipCluster.Proofs.Node.Residence
import GossipCluster.Proofs.View.Lodgings

namespace GossipCluster

-- Where the node is and those that it knows. It keeps its own address even if its view has another one for it.
def Node.lodgings (n : Node) : Set (String × String) := insert n.self.lodging n.view.lodgings

-- Of those who come somebody is at an address that is another's: the node's, that of one who stays, or that of one
-- who comes as well.
def Node.Intruded (n : Node) (coming : Set (String × String)) : Prop :=
  Intrudes coming (insert n.self.lodging (n.view.staying coming))

namespace Turn

-- So it is with those who are learned of from a view. Who leaves with the same view makes room first.
def Intruded (t : Turn) (incoming : View) : Prop :=
  let forgetful := (t.forget incoming).node
  forgetful.Intruded (forgetful.view.arrivals (without incoming (departing t.node incoming)))

inductive Intrusion (t : Turn) : Input → Prop
  | join {e joiner token} : e.message = .joinRequest joiner token → (t.checkAdmission joiner token).2 = .ok () →
      t.node.Intruded {p | p = joiner.lodging ∧ t.node.view.Takes joiner} → Intrusion t (.envelope e)
  | gossip {e incoming} : e.message = .gossip incoming → checkProtocol t.node incoming = .ok () → t.node.isUp →
      (t.attend e.sender incoming).1.Intruded incoming → Intrusion t (.envelope e)
  | recovery {before view after} : t.node.isUp →
      (({ t with node := { t.node with recovering := false } } : Turn).learnAll before).1.Intruded view →
      Intrusion t (.recovered (before ++ view :: after))
  | entry {i view self} : i.Admits view t.node.phase → entrant t.node.self view t.now = .ok self →
      (t.become self).Intruded view → Intrusion t i

-- Between two moments of a turn nobody moves and nobody comes.
def Rests (t u : Turn) : Prop := u.node.lodgings ⊆ t.node.lodgings

variable {t u w : Turn} {m : Member} {status : Status} {v incoming : View} {sender : Option Endpoint} {i : Input}

theorem lodging_eq (id : m.id = t.node.self.id) (site : m.site = t.node.self.site) :
    m.lodging = t.node.self.lodging :=
  congrArg₂ Prod.mk id (congrArg Prod.snd site)

namespace Rests

theorem of_view (self : u.node.self.lodging = t.node.self.lodging) (view : u.node.view.lodgings ⊆ t.node.lodgings) :
    Rests t u :=
  Set.insert_subset (self ▸ Set.mem_insert ..) view

theorem idle (self : u.node.self = t.node.self) (view : u.node.view = t.node.view) : Rests t u :=
  of_view (self ▸ rfl) (view ▸ Set.subset_insert ..)

theorem refl (t : Turn) : Rests t t := subset_rfl

theorem trans (a : Rests t u) (b : Rests u w) : Rests t w := Set.Subset.trans b a

instance : IsPreorder Turn Rests where
  refl  := refl
  trans _ _ _ := trans

theorem of_quiet (h : Quiet t u) : Rests t u := idle h.self h.view

theorem apart (h : Rests t u) (apart : Apart t.node.lodgings) : Apart u.node.lodgings := apart.mono h

theorem setView (h : v.imprints ⊆ t.node.view.imprints) : Rests t (t.setView v) :=
  of_view rfl <| (View.lodgings_mono h).trans (Set.subset_insert ..)

theorem become (h : m.lodging = t.node.self.lodging) : Rests t (t.become m) := of_view h (Set.subset_insert ..)

theorem setSelf (h : m.lodging = t.node.self.lodging) : Rests t (t.setSelf m) := by
  refine of_view h <| View.lodgings_add_subset.trans <| Set.union_subset ?_ ?_
  · exact View.staying_subset.trans (Set.subset_insert ..)
  · exact fun p hp => .inl (hp.1.trans h)

theorem setStatus : Rests t (t.setStatus status) := setSelf rfl

theorem recordChange : Rests t t.recordChange := by
  rw [Turn.recordChange]
  split
  case h_1 counted => exact setView (View.imprints_recordChange counted).subset
  case h_2 => exact refl t

theorem enterUp : Rests t t.enterUp := idle rfl rfl

theorem heartbeat : Rests t t.heartbeat :=
  of_view rfl <| (View.lodgings_mono View.imprints_touch.subset).trans (Set.subset_insert ..)

theorem discard {d : Detection} : Rests t (t.discard d) :=
  (setView <| View.imprints_removeAll_subset.trans View.imprints_suspectAll.subset).trans recordChange

theorem attend : Rests t (t.attend sender incoming).1 := by
  cases sender with
  | none => exact refl t
  | some => exact of_view rfl <| (View.lodgings_mono View.imprints_revive.subset).trans (Set.subset_insert ..)

theorem forget : Rests t (t.forget incoming) := by
  have removed : (without t.node.view (departed t.node incoming)).imprints ⊆ t.node.view.imprints := by
    rw [View.without_eq]
    exact View.imprints_removeAll_subset
  exact (setView removed).trans (idle (by rw [node_forget]; rfl) (by rw [node_forget]; rfl))

theorem reassert : Rests t t.reassert := by
  refine reassert_of (setSelf rfl) (fun self supersedes => setSelf ?_) fun _ => recordChange
  exact lodging_eq supersedes.eq.1 supersedes.site

theorem entrant (h : entrant t.node.self v t.now = .ok m) : Rests t (t.become m) :=
  become <| lodging_eq (entrant_stamp_le h).1 (site_of_entrant h)

theorem depart : Rests t t.depart :=
  depart_of (fun _ => idle rfl rfl) (fun _ _ => setStatus) (fun _ => recordChange) fun _ => idle rfl rfl

end Rests

theorem apart_arrive {coming : Set (String × String)} (apart : Apart t.node.lodgings) (fits : ¬t.node.Intruded coming)
    (h : v.lodgings ⊆ t.node.view.staying coming ∪ coming) : Apart (t.setView v).node.lodgings := by
  have kept : Apart (insert t.node.self.lodging (t.node.view.staying coming)) :=
    apart.mono (Set.insert_subset_insert View.staying_subset)
  refine (kept.union fits).mono <| Set.insert_subset (.inl (Set.mem_insert ..)) ?_
  exact h.trans <| Set.union_subset_union_left _ (Set.subset_insert ..)

theorem apart_learn (apart : Apart t.node.lodgings) (fits : ¬t.Intruded incoming) :
    Apart (t.learn incoming).1.node.lodgings :=
  apart_arrive (t := t.forget incoming) (Rests.forget.apart apart) fits View.lodgings_merge_subset

theorem apart_learnAll {views : List View} (apart : Apart t.node.lodgings)
    (fits : ∀ before view after, views = before ++ view :: after → ¬(t.learnAll before).1.Intruded view) :
    Apart (t.learnAll views).1.node.lodgings := by
  induction views using List.reverseRecOn with
  | nil => exact apart
  | append_singleton views view ih =>
    have earlier : Apart (t.learnAll views).1.node.lodgings := by
      refine ih fun before v after e => fits before v (after ++ [view]) ?_
      simp [e]
    have last : (t.learnAll (views ++ [view])).1 = ((t.learnAll views).1.learn view).1 := by
      simp [learnAll, List.foldl_append]
    rw [last]
    exact apart_learn earlier (fits views view [] rfl)

theorem apart_enroll {joiner : Member} (apart : Apart t.node.lodgings)
    (fits : ¬t.node.Intruded {p | p = joiner.lodging ∧ t.node.view.Takes joiner}) :
    Apart (t.enroll joiner).node.lodgings :=
  Rests.recordChange.apart (apart_arrive apart fits View.lodgings_add_subset)

theorem Deed.apart (deed : Deed t i u) (apart : Apart t.node.lodgings) (fits : ¬t.Intrusion i) :
    Apart u.node.lodgings := by
  cases deed with
  | nothing => exact apart
  | beat => exact Rests.heartbeat.apart apart
  | discard => exact (Rests.heartbeat.trans .discard).apart apart
  | absorb h ok up =>
    refine Rests.reassert.apart <| apart_learn (Rests.attend.apart apart) fun intruded => ?_
    exact fits (.gossip h ok up intruded)
  | recover up =>
    have idle : Rests t { t with node := { t.node with recovering := false } } := .idle rfl rfl
    refine Rests.reassert.apart <| apart_learnAll (idle.apart apart) fun before view after e intruded => ?_
    subst e
    exact fits (.recovery up intruded)
  | enroll h admitted => exact apart_enroll apart fun intrudes => fits (.join h admitted intrudes)
  | expel => exact ((Rests.setView View.imprints_remove_subset).trans .recordChange).apart apart
  | @rewrite _ state =>
    have rewritten : Rests t (t.become { t.node.self with state := state }) := .become rfl
    exact (rewritten.trans <| Rests.setStatus.trans .recordChange).apart apart
  | retry => exact apart
  | fail => exact apart
  | enter admits entered =>
    have learned := apart_learn ((Rests.entrant entered).apart apart) fun intruded =>
      fits (.entry admits entered intruded)
    exact (Rests.setStatus.trans <| Rests.recordChange.trans .enterUp).apart learned
  | depart => exact Rests.depart.apart apart

theorem apart_run (apart : Apart t.node.lodgings) (fits : ¬t.Intrusion i) : Apart (t.run i).node.lodgings :=
  have ⟨_, deed, quiet⟩ := Does.run (t := t) (i := i)
  (Rests.of_quiet quiet).apart (deed.apart apart fits)

theorem apart_start (apart : Apart t.node.lodgings) : Apart t.start.node.lodgings := by
  refine (Rests.of_quiet quiet_start).apart ?_
  rw [opening]
  split
  case isTrue => exact (Rests.setStatus.trans <| Rests.recordChange.trans .enterUp).apart apart
  case isFalse => exact apart

end Turn

namespace Node

variable {n : Node} {host : Host} {e : Envelope} {x : Happening} {hs : List Happening} {joiner a : Member} {token : String}

-- Somebody comes to an address that is another's.
def Intrusion (n : Node) : Happening → Prop
  | .input host i => Turn.Intrusion ⟨host, n, []⟩ i
  | .fired _ => False

theorem Fresh.apart (h : n.Fresh) : Apart n.lodgings := by
  have alone : n.lodgings ⊆ {n.self.lodging} := by
    refine Set.insert_subset rfl ?_
    rintro _ ⟨m, hm, rfl⟩
    have known : m ∈ n.view.members.rows := hm
    rw [h.members, List.mem_singleton] at known
    exact known ▸ rfl
  intro p hp q hq _ _
  rw [alone hp, alone hq]

theorem apart_start (apart : Apart n.lodgings) (host : Host) : Apart (n.start host).1.lodgings := by
  simp only [start]
  exact Turn.apart_start (t := ⟨host, n, []⟩) apart

theorem apart_meet (apart : Apart n.lodgings) (fits : ¬n.Intrusion x) : Apart (n.meet x).lodgings := by
  cases x with
  | input host i =>
    simp only [meet, step]
    exact Turn.apart_run (t := ⟨host, n, []⟩) apart fits
  | fired => exact apart

theorem apart_live (apart : Apart n.lodgings) (fits : ∀ p x, p ++ [x] <+: hs → ¬(n.live p).Intrusion x) :
    Apart (n.live hs).lodgings := by
  induction hs using List.reverseRecOn with
  | nil => exact apart
  | append_singleton hs x ih =>
    have earlier : Apart (n.live hs).lodgings := ih fun p y le => fits p y (le.trans (List.prefix_append hs [x]))
    rw [live_concat]
    exact apart_meet earlier (fits hs x List.prefix_rfl)

-- Nobody minds a joiner from an address of its own.
theorem not_intrusion_of_join (asks : e.message = .joinRequest joiner token)
    (away : n.self.address ≠ joiner.address) (free : ∀ m ∈ n.view.members.rows, m.address ≠ joiner.address) :
    ¬n.Intrusion (.input host (.envelope e)) := by
  intro intrusion
  cases intrusion with
  | join asks' _ intrudes =>
    obtain ⟨rfl, _⟩ := Message.joinRequest.inj (asks.symm.trans asks')
    obtain ⟨_, ⟨rfl, _⟩, q, hq, same, _, differ⟩ := intrudes
    rcases hq with (rfl | ⟨⟨m, hm, rfl⟩, _⟩) | ⟨rfl, _⟩
    · exact away same.symm
    · exact free m hm same.symm
    · exact differ rfl
  | gossip gossip => exact nomatch asks.symm.trans gossip
  | entry admits =>
    rcases admits.eq with ⟨_, eq⟩ | ⟨_, eq, response⟩
    · exact nomatch eq
    · obtain rfl := Input.envelope.inj eq
      exact nomatch asks.symm.trans response

theorem fits_single (fits : ¬n.Intrusion x) (p : List Happening) (y : Happening) (le : p ++ [y] <+: [x]) :
    ¬(n.live p).Intrusion y := by
  obtain ⟨rfl, rfl⟩ : p = [] ∧ y = x := by cases p <;> simp_all
  exact fits

-- Whoever is let in is taken in beside the others.
theorem member?_meet_of_admitted (asks : e.message = .joinRequest joiner token)
    (admitted : (Turn.checkAdmission ⟨host, n, []⟩ joiner token).2 = .ok ()) (id : String) :
    (n.meet (.input host (.envelope e))).view.member? id =
      (n.view.add { joiner with status := .up, lastSeen := host.now }).member? id := by
  have quiet : Turn.Quiet (Turn.enroll ⟨host, n, []⟩ joiner) (Turn.run ⟨host, n, []⟩ (.envelope e)) := by
    simp only [Turn.run, Turn.receive, asks]
    exact Turn.quiet_enroll admitted
  simp only [meet, step, quiet.view]
  exact Turn.member?_recordChange

theorem shared_of_admitted (asks : e.message = .joinRequest joiner token)
    (admitted : (Turn.checkAdmission ⟨host, n, []⟩ joiner token).2 = .ok ()) (unknown : ¬n.view.contains joiner.id)
    (known : a ∈ n.view.members.rows) (same : a.address = joiner.address) :
    let after := (n.meet (.input host (.envelope e))).view
    ∃ b, a ∈ after.members.rows ∧ b ∈ after.members.rows ∧ a.id ≠ b.id ∧ a.address = b.address ∧ a.address ≠ "" := by
  intro after
  let b : Member := { joiner with status := .up, lastSeen := host.now }
  have located : joiner.address ≠ "" := (Turn.accredits_of_admitted admitted).located
  have nobody : n.view.member? joiner.id = none := by
    rw [Option.eq_none_iff_forall_ne_some]
    exact fun m hm => unknown (View.contains_iff.mpr ⟨m, hm⟩)
  have held : n.view.member? a.id = some a := View.member?_eq_some_iff.mpr ⟨known, rfl⟩
  have differ : b.id ≠ a.id := fun e => by
    rw [← e] at held
    exact nomatch nobody.symm.trans held
  have kept : after.member? a.id = some a := by
    rw [member?_meet_of_admitted asks admitted, View.member?_add, if_neg fun ⟨e, _⟩ => differ e]
    exact held
  have added : after.member? b.id = some b := by
    have new : (n.view.member? b.id).all (b.Newer ·) := by rw [nobody]; rfl
    rw [member?_meet_of_admitted asks admitted, View.member?_add, if_pos ⟨rfl, new⟩]
  exact ⟨b, (View.member?_eq_some_iff.mp kept).1, (View.member?_eq_some_iff.mp added).1, differ.symm, same,
    same ▸ located⟩

theorem addresses_apart {config : Config} {now : Timestamp} {instant : Instant} (host : Host)
    (created : Node.create config now instant = .ok (some n)) (hs : List Happening)
    (fits : ∀ p x, p ++ [x] <+: hs → ¬((n.start host).1.live p).Intrusion x) :
    let m := (n.start host).1.live hs
    (∀ a ∈ m.view.members.rows, ∀ b ∈ m.view.members.rows, a.address = b.address → a.address ≠ "" → a = b) ∧
    (∀ address ≠ "", ∀ a, m.view.memberAt? address = some a ↔ a ∈ m.view.members.rows ∧ a.address = address) ∧
    (∀ host' sender incoming id, sender.address ≠ "" →
      (Turn.attend ⟨host', m, []⟩ (some sender) incoming).1.node.view.member? id =
        (m.view.member? id).map (·.heard sender.address host'.now)) ∧
    ∀ host' e joiner token a, e.message = .joinRequest joiner token →
      (Turn.checkAdmission ⟨host', m, []⟩ joiner token).2 = .ok () → ¬m.view.contains joiner.id →
      a ∈ m.view.members.rows → a.address = joiner.address →
        let after := (m.meet (.input host' (.envelope e))).view
        ∃ b, a ∈ after.members.rows ∧ b ∈ after.members.rows ∧ a.id ≠ b.id ∧ a.address = b.address ∧
          a.address ≠ "" := by
  intro m
  have apart : Apart m.lodgings := apart_live (apart_start (fresh_of_create created).apart host) fits
  have apart : Apart m.view.lodgings := apart.mono (Set.subset_insert ..)
  refine ⟨?distinct, ?found, ?heard, ?shared⟩
  case distinct => exact fun a ha b hb => View.eq_of_apart apart ha hb
  case found => exact fun address ne a => View.memberAt?_eq_some_iff apart ne
  case heard => exact fun host' sender incoming id ne => View.member?_revive_of_apart apart ne
  case shared => exact fun host' e joiner token a => shared_of_admitted

-- A node lets another one in that comes from elsewhere.
theorem addresses_apart_joined : ∃ (n : Node) (host : Host) (x : Happening) (b : Member),
    ((n.start host).1.live [x]).view.memberAt? "10.0.0.9:7000" = some b ∧ b.id = "b" := by
  let config : Config :=
    { node := { id := "a", address := "10.0.0.1:7000" }, failure := { crossTimeout := some (.ofMillis 200) } }
  let host : Host := ⟨0, 0, ⟨[], []⟩, fun _ _ => [], []⟩
  let joiner : Member := .starting "b" "meshwork" "10.0.0.9:7000" 0
  let x : Happening := .input host (.envelope ⟨none, .joinRequest joiner "", true⟩)
  have ⟨n, created, away, free, known⟩ : ∃ n, Node.create config 0 0 = .ok (some n) ∧
      (n.start host).1.self.address ≠ joiner.address ∧
      (∀ m ∈ (n.start host).1.view.members.rows, m.address ≠ joiner.address) ∧
      ((n.start host).1.live [x]).view.member? "b" = some { joiner with status := .up } :=
    ⟨_, rfl, by decide +kernel⟩
  have fits : ¬(n.start host).1.Intrusion x := not_intrusion_of_join rfl away free
  have ⟨_, found, _⟩ := addresses_apart host created [x] (fits_single fits)
  have ⟨mem, same⟩ := View.member?_eq_some_iff.mp known
  exact ⟨n, host, x, _, (found "10.0.0.9:7000" (by decide) _).mpr ⟨mem, rfl⟩, same⟩

-- A node is started anew at its address under another id, as it is if it has none of its own. The one that it has
-- been before is heard in its place.
theorem address_shared : ∃ (config : Config) (n : Node) (host : Host) (x y : Happening) (a b : Member),
    config.validate = .ok () ∧ Node.create config 0 0 = .ok (some n) ∧
    let m := (n.start host).1.live [x, y]
    m.view.member? "a" = some a ∧ m.view.member? "b" = some b ∧ a.address = b.address ∧ a.address ≠ "" ∧
      m.view.memberAt? b.address = some a := by
  let host : Host := ⟨0, 0, ⟨[], []⟩, fun _ _ => [], []⟩
  let joins (id : String) : Happening :=
    .input host (.envelope ⟨none, .joinRequest (.starting id "meshwork" "10.0.0.9:7000" 0) "", true⟩)
  let member (id : String) : Member := { Member.starting id "meshwork" "10.0.0.9:7000" 0 with status := .up }
  have ⟨config, valid, n, created, first, second, heard⟩ : ∃ config : Config, config.validate = .ok () ∧
      ∃ n, Node.create config 0 0 = .ok (some n) ∧
        let m := (n.start host).1.live [joins "a", joins "b"]
        m.view.member? "a" = some (member "a") ∧ m.view.member? "b" = some (member "b") ∧
          m.view.memberAt? "10.0.0.9:7000" = some (member "a") :=
    ⟨{ node := { id := "n", address := "10.0.0.1:7000" }, failure := { crossTimeout := some (.ofMillis 200) } },
      rfl, _, rfl, by decide +kernel⟩
  exact ⟨config, n, host, joins "a", joins "b", member "a", member "b", valid, created, first, second, rfl,
    by decide, heard⟩

end Node

end GossipCluster
