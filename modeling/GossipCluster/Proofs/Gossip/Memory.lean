import GossipCluster.Node.Gossip
import GossipCluster.Proofs.Detection.Verdict
import GossipCluster.Proofs.Table.Eviction
import GossipCluster.Proofs.VersionVector.Order

namespace GossipCluster

-- The turn of a node that has other things in mind of its peers.
def Turn.recalling (t : Turn) (p : PeerVersions) : Turn := { t with node := { t.node with peers := p } }

namespace PeerVersions

inductive Call
  | record (address : String) (version : VersionVector) (now : Timestamp)
  | retain (known : List String)

def handle (p : PeerVersions) : Call → PeerVersions
  | .record address version now => p.record address version now
  | .retain known => p.retain known

def after (p : PeerVersions) (calls : List Call) : PeerVersions := calls.foldl handle p

def learn (entries : Dict (VersionVector × Timestamp)) : Call → Dict (VersionVector × Timestamp)
  | .record address version now => entries.put address (version, now)
  | .retain known => entries.filter (known.contains ·.1)

-- The memory as it would be if nothing had ever been dropped for want of room.
def unbounded (p : PeerVersions) (calls : List Call) : PeerVersions := { p with entries := calls.foldl learn ∅ }

-- Whether a call leaves what is known of a peer as it is.
def Call.Spares (address : String) : Call → Prop
  | record other _ _ => other ≠ address
  | retain known => address ∈ known

-- The last that was heard of a peer, and has not been forgotten.
def LastWord (calls : List Call) (address : String) (version : VersionVector) (recorded : Timestamp) : Prop :=
  ∃ before since, calls = before ++ .record address version recorded :: since ∧ ∀ call ∈ since, call.Spares address

-- How old a record is, as far as timestamps can tell; not at all, if it is of a time to come.
def age (recorded now : Timestamp) : ℕ := (min (now.toInt - recorded.toInt) (2 ^ 63 - 1)).toNat

-- What these calls make of a memory that is new.
structure Approximates (ttl : Duration) (maxEntries : ℕ) (calls : List Call) (p : PeerVersions) : Prop where
  bounded : p.entries.size ≤ max maxEntries 1
  latest  : ∀ before since address version now, calls = before ++ .record address version now :: since →
    (∀ call ∈ since, ∃ known, call = .retain known ∧ address ∈ known) →
      p.entries.get? address = some (version, now)
  sound   : ∀ address ours now, p.isCurrent address ours now → (p.unbounded calls).isCurrent address ours now
  current : ∀ address ours now, (p.unbounded calls).isCurrent address ours now ↔ ∃ version recorded,
    LastWord calls address version recorded ∧ ours.get ≤ version.get ∧ age recorded now < ttl.nanos
  sends   : ∀ (t : Turn) fewer, (t.recalling (p.unbounded calls)).gossipTargets? = some fewer →
    ∃ targets, (t.recalling p).gossipTargets? = some targets ∧ fewer.Sublist targets

variable {p q : PeerVersions} {address other : String} {version ours : VersionVector} {now recorded : Timestamp}
  {calls more : List Call} {call : Call} {entries : Dict (VersionVector × Timestamp)} {v : VersionVector × Timestamp}

def stamp (v : VersionVector × Timestamp) : ℤ := v.2.toInt

theorem oldest?_eq : oldest? entries = (entries.rows.argmin fun e => stamp e.2).map Prod.fst := by
  have : oldest?.earlier = List.argAux fun b c : String × VersionVector × Timestamp => stamp b.2 < stamp c.2 := by
    funext least e
    cases least with
    | none => rfl
    | some l => exact if_congr Int64.lt_iff_toInt_lt rfl rfl
  rw [oldest?, this]
  rfl

theorem record_eq (pos : 0 < p.maxEntries) : ∃ room, Dict.MakesRoom stamp p.maxEntries p.entries address room ∧
    p.record address version now = { p with entries := room.put address (version, now) } := by
  refine ⟨_, ?_, rfl⟩
  rw [oldest?_eq]
  split
  case h_1 oldest found =>
    split at found
    case isTrue full =>
      obtain ⟨absent, full⟩ : ¬p.entries.contains address ∧ p.maxEntries ≤ p.entries.size := by simpa using full
      exact .evict absent full (Dict.oldest_of_argmin found)
    case isFalse => exact nomatch found
  case h_2 nobody =>
    by_cases present : p.entries.contains address
    case pos => exact .present present
    case neg =>
      refine .spare (Nat.lt_of_not_le fun full => ?_)
      rw [if_pos (by simp [present, full])] at nobody
      exact absurd (Dict.size_eq_zero_of_argmin nobody) (by omega)

theorem get?_record (pos : 0 < p.maxEntries) :
    (p.record address version now).entries.get? address = some (version, now) := by
  obtain ⟨_, _, e⟩ := record_eq pos
  rw [e, Dict.get?_put, if_pos rfl]

theorem get?_learn_eq_some_iff : (learn entries call).get? address = some (version, recorded) ↔
    call = .record address version recorded ∨
      entries.get? address = some (version, recorded) ∧ call.Spares address := by
  cases call with
  | record other version' now =>
    rw [learn, Dict.get?_put]
    by_cases same : other = address <;> simp [same, Call.Spares]
  | retain known =>
    rw [learn, Dict.get?_filter_key]
    by_cases kept : address ∈ known <;> simp [kept, Call.Spares]

-- There is room for somebody, and for all that is known.
structure Fits (p : PeerVersions) : Prop where
  room : 0 < p.maxEntries
  fits : p.entries.size ≤ p.maxEntries

theorem Fits.handle (h : p.Fits) (call : Call) : (p.handle call).Fits := by
  cases call with
  | record address version now =>
    obtain ⟨_, made, e⟩ := record_eq h.room
    rw [PeerVersions.handle, e]
    exact ⟨h.room, made.size_put_le h.fits⟩
  | retain known => exact ⟨h.room, Table.size_filter_le.trans h.fits⟩

-- Whatever is known by the first memory is known by the second.
def Within (entries entries' : Dict (VersionVector × Timestamp)) : Prop :=
  ∀ address v, entries.get? address = some v → entries'.get? address = some v

theorem Within.handle (h : Within p.entries entries) (pos : 0 < p.maxEntries) (call : Call) :
    Within (p.handle call).entries (learn entries call) := by
  intro address v found
  cases call with
  | record other version now =>
    obtain ⟨_, made, e⟩ := record_eq pos
    rw [PeerVersions.handle, e, Dict.get?_put] at found
    rw [learn, Dict.get?_put]
    split at found
    case isTrue same => rwa [if_pos same]
    case isFalse ne => rw [if_neg ne, h address v (made.get?_of_get? found)]
  | retain known =>
    rw [PeerVersions.handle, retain, Dict.get?_filter_key] at found
    rw [learn, Dict.get?_filter_key]
    split at found
    case isTrue kept => rw [if_pos kept, h address v found]
    case isFalse => exact nomatch found

theorem after_cons : p.after (call :: calls) = (p.handle call).after calls := rfl

theorem after_append : p.after (calls ++ more) = (p.after calls).after more := List.foldl_append

theorem settings_after : (p.after calls).ttl = p.ttl ∧ (p.after calls).maxEntries = p.maxEntries := by
  induction calls generalizing p with
  | nil => exact ⟨rfl, rfl⟩
  | cons call calls ih =>
    have ⟨ttl, maxEntries⟩ := @ih (p.handle call)
    cases call <;> exact ⟨ttl, maxEntries⟩

theorem Fits.after (h : p.Fits) (calls : List Call) : (p.after calls).Fits := by
  induction calls generalizing p with
  | nil => exact h
  | cons call calls ih => exact ih (h.handle call)

theorem Within.after (within : Within p.entries entries) (h : p.Fits) (calls : List Call) :
    Within (p.after calls).entries (calls.foldl learn entries) := by
  induction calls generalizing p entries with
  | nil => exact within
  | cons call calls ih => exact ih (within.handle h.room call) (h.handle call)

theorem get?_after_retained (found : p.entries.get? address = some v)
    (retained : ∀ call ∈ calls, ∃ known, call = .retain known ∧ address ∈ known) :
    (p.after calls).entries.get? address = some v := by
  induction calls generalizing p with
  | nil => exact found
  | cons call calls ih =>
    obtain ⟨⟨known, rfl, kept⟩, later⟩ := List.forall_mem_cons.mp retained
    refine ih ?_ later
    rw [handle, retain, Dict.get?_filter_key, if_pos (by simpa using kept), found]

theorem lastWord_concat_iff : LastWord (calls ++ [call]) address version recorded ↔
    call = .record address version recorded ∨ LastWord calls address version recorded ∧ call.Spares address := by
  constructor
  case mp =>
    rintro ⟨before, since, e, spared⟩
    rcases List.eq_nil_or_concat since with rfl | ⟨since, last, rfl⟩
    · have ⟨_, same⟩ := List.append_inj' e rfl
      exact .inl (by simpa using same)
    · have e : calls ++ [call] = (before ++ .record address version recorded :: since) ++ [last] := by simpa using e
      obtain ⟨rfl, same⟩ := List.append_inj' e rfl
      obtain rfl : call = last := by simpa using same
      exact .inr ⟨⟨before, since, rfl, fun c hc => spared c (by simp [hc])⟩, spared call (by simp)⟩
  case mpr =>
    rintro (rfl | ⟨⟨before, since, rfl, spared⟩, spares⟩)
    · exact ⟨calls, [], rfl, nofun⟩
    · refine ⟨before, since ++ [call], by simp, fun c hc => ?_⟩
      rcases List.mem_append.mp hc with earlier | last
      · exact spared c earlier
      · exact List.mem_singleton.mp last ▸ spares

theorem get?_foldl_learn_iff : (calls.foldl learn ∅).get? address = some (version, recorded) ↔
    LastWord calls address version recorded := by
  induction calls using List.reverseRecOn with
  | nil =>
    have nobody : Dict.get? (∅ : Dict (VersionVector × Timestamp)) address = none := rfl
    simp [LastWord, nobody]
  | append_singleton calls call ih =>
    rw [List.foldl_append, lastWord_concat_iff, ← ih]
    exact get?_learn_eq_some_iff

theorem isCurrent_iff : p.isCurrent address ours now ↔ ∃ version recorded,
    p.entries.get? address = some (version, recorded) ∧ ours.get ≤ version.get ∧ age recorded now < p.ttl.nanos := by
  have fresh (recorded : Timestamp) : Timestamp.elapsed now recorded < p.ttl ↔ age recorded now < p.ttl.nanos := by
    rw [age, ← Timestamp.toNat_toInt_clamp]
    exact Iff.rfl
  rw [isCurrent]
  split
  case h_1 version recorded found => simp [found, fresh, VersionVector.dominates_iff, and_comm]
  case h_2 unknown => simp [unknown]

theorem isCurrent_of_within (within : Within p.entries q.entries) (ttl : p.ttl = q.ttl)
    (h : p.isCurrent address ours now) : q.isCurrent address ours now := by
  obtain ⟨version, recorded, found, seen, fresh⟩ := isCurrent_iff.mp h
  exact isCurrent_iff.mpr ⟨version, recorded, within _ _ found, seen, ttl ▸ fresh⟩

theorem gossipTargets?_recalling {t : Turn} : (t.recalling p).gossipTargets? =
    (t.node.selector.select t.node.view t.node.self t.host.seeds.all t.host.words).1.map fun targets =>
      (targets.map (·.address)).filter fun a => !p.isCurrent a t.node.view.versions t.now := rfl

theorem after_approximates (ttl : Duration) (maxEntries : ℕ) (calls : List Call) :
    Approximates ttl maxEntries calls ((new ttl maxEntries).after calls) := by
  have start : (new ttl maxEntries).Fits := ⟨Nat.lt_of_lt_of_le Nat.one_pos (le_max_right ..), Nat.zero_le _⟩
  have ⟨sameTtl, sameBound⟩ := @settings_after (new ttl maxEntries) calls
  have sound : Within ((new ttl maxEntries).after calls).entries (calls.foldl learn ∅) :=
    Within.after (fun _ _ found => found) start calls
  constructor
  case bounded => exact (start.after calls).fits.trans_eq sameBound
  case latest =>
    rintro before since address version now rfl retained
    rw [after_append, after_cons]
    exact get?_after_retained (get?_record (start.after before).room) retained
  case sound =>
    intro address ours now h
    exact isCurrent_of_within sound rfl h
  case current =>
    intro address ours now
    simp only [isCurrent_iff, unbounded, get?_foldl_learn_iff, sameTtl]
    rfl
  case sends =>
    intro t fewer h
    rw [gossipTargets?_recalling] at h ⊢
    obtain ⟨chosen, selected, rfl⟩ := Option.map_eq_some_iff.mp h
    refine ⟨_, by rw [selected]; rfl, List.monotone_filter_right _ fun a unknown => ?_⟩
    rw [Bool.not_eq_true'] at unknown ⊢
    exact Bool.eq_false_iff.mpr fun h => Bool.eq_false_iff.mp unknown (isCurrent_of_within sound rfl h)

-- There is room for two. The peer that was heard of longest ago is dropped for the third one, and will be sent what it
-- has; a record that is replaced and one that is too old are no better without a bound.
theorem after_approximates_of_two :
    let seen (n : ℕ) : VersionVector := ⟨.put ∅ "n" n⟩
    let calls : List Call := [.record "a" (seen 2) 1, .record "b" (seen 2) 2, .record "c" (seen 2) 3,
      .retain ["a", "b", "c"], .record "b" (seen 1) 4]
    let p := (new ⟨10⟩ 2).after calls
    p.entries.size = 2 ∧ p.isCurrent "c" (seen 2) 5 ∧ !p.isCurrent "b" (seen 2) 5 ∧
      !p.isCurrent "a" (seen 2) 5 ∧ (p.unbounded calls).isCurrent "a" (seen 2) 5 ∧
      !(p.unbounded calls).isCurrent "b" (seen 2) 5 ∧ !(p.unbounded calls).isCurrent "a" (seen 2) 11 ∧
      Approximates ⟨10⟩ 2 calls p := by
  intro seen calls p
  exact ⟨by decide +kernel, by decide +kernel, by decide +kernel, by decide +kernel, by decide +kernel,
    by decide +kernel, by decide +kernel, after_approximates ⟨10⟩ 2 calls⟩

end PeerVersions

end GossipCluster
