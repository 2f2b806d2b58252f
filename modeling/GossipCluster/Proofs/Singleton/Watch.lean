import GossipCluster.Proofs.Event.Backlog
import GossipCluster.Singleton.Manager

namespace GossipCluster

-- Whether this node leads and whether it is in quorum.
abbrev Word := Bool × Bool

def Event.word? : Event → Option Word
  | .leaderChanged _ isSelf inQuorum => some (isSelf, inQuorum)
  | _ => none

namespace Manager

variable {m : Manager} {free : String → Bool} {w : Word} {e : Event}

theorem running_reconcile (h : (m.reconcile free w.1 w.2).1.running ≠ []) : w = (true, true) := by
  obtain ⟨isLeader, inQuorum⟩ := w
  rw [reconcile] at h
  split at h
  case isTrue leads => simpa using leads
  case isFalse => exact absurd rfl h

theorem observe_of_word? (h : e.word? = some w) : m.observe free e = m.reconcile free w.1 w.2 := by
  cases e with
  | leaderChanged => exact Option.some_inj.mp h ▸ rfl
  | _ => exact nomatch h

theorem observe_of_no_word (h : e.word? = none) : m.observe free e = (m, []) := by
  cases e with
  | leaderChanged => exact nomatch h
  | _ => rfl

end Manager

-- `events` have been published so far, and the manager has subscribed when there were `first` of them. It has read
-- those before `cursor` but for the `lost` ones. `answer` is what its node said when the manager asked, and `word` is
-- the last it has been told.
structure Watch where
  bus     : Bus
  events  : List Event
  first   : Cursor
  cursor  : Cursor
  lost    : Set ℕ
  asking  : Bool
  answer  : Option Word
  word    : Option Word
  manager : Manager

namespace Watch

def start (capacity : ℕ) (earlier : List Event) (singletons : List String) : Watch :=
  let bus := earlier.foldl Bus.publish (.new capacity)
  { bus, events := earlier, first := bus.subscribe, cursor := bus.subscribe, lost := ∅, asking := true,
    answer := none, word := none, manager := .new singletons }

def publish (s : Watch) (e : Event) : Watch := { s with bus := s.bus.publish e, events := s.events ++ [e] }

-- The node may have said anything, or nothing.
def settle (s : Watch) (answer : Option Word) (free : String → Bool) : Watch :=
  let manager := (answer.map fun w => (s.manager.reconcile free w.1 w.2).1).getD s.manager
  { s with asking := false, answer := answer, word := answer, manager := manager }

def read (s : Watch) (e : Event) (cursor : Cursor) (free : String → Bool) : Watch :=
  { s with
    cursor  := cursor
    lost    := s.lost ∪ Set.Ico s.cursor s.bus.oldest
    word    := e.word?.or s.word
    manager := (s.manager.observe free e).1 }

-- Events are published at any time. Which singletons can be started is left open.
inductive Step (s : Watch) : Watch → Prop
  | publish (e : Event) : Step s (s.publish e)
  | settle (answer : Option Word) (free : String → Bool) : s.asking → Step s (s.settle answer free)
  | read {e c} (free : String → Bool) : ¬s.asking → s.bus.next? s.cursor = some (e, c) → Step s (s.read e c free)

def wordAt (s : Watch) (k : ℕ) : Option Word := s.events[k]?.bind Event.word?

-- The last that has been published of leader and quorum is `w`, as event number `k`.
structure Latest (s : Watch) (k : ℕ) (w : Word) : Prop where
  word  : s.wordAt k = some w
  later : ∀ j > k, s.wordAt j = none

structure Sound (s : Watch) : Prop where
  carries : s.bus.Carries s.events
  begun   : s.first ≤ s.cursor
  within  : s.cursor ≤ s.events.length
  asking  : s.asking → s.cursor = s.first ∧ s.word = none
  lost    : ∀ k ∈ s.lost, k < s.cursor ∧ k + s.bus.capacity < s.events.length
  running : s.manager.running ≠ [] → s.word = some (true, true)
  -- What has been read last of leader and quorum.
  heard   : ∀ k w, s.first ≤ k → k < s.cursor → k ∉ s.lost → s.wordAt k = some w →
    (∀ j, k < j → j < s.cursor → s.wordAt j = none) → s.word = some w
  unheard : (∀ k, s.first ≤ k → k < s.cursor → k ∉ s.lost → s.wordAt k = none) → s.word = s.answer

variable {s s' : Watch} {e : Event} {cursor : Cursor} {free : String → Bool} {answer : Option Word} {k place : ℕ}
  {w : Word} {capacity : ℕ} {earlier : List Event} {singletons : List String}

theorem wordAt_publish (h : k < s.events.length) : (s.publish e).wordAt k = s.wordAt k := by
  rw [wordAt, publish, List.getElem?_append_left h, ← wordAt]

namespace Sound

theorem start : (start capacity earlier singletons).Sound := by
  have carries : (earlier.foldl Bus.publish (.new capacity)).Carries earlier := by
    simpa using (Bus.Carries.new capacity).foldl_publish earlier
  have first : (earlier.foldl Bus.publish (.new capacity)).subscribe = earlier.length := carries.published
  exact {
    carries
    begun   := Nat.le_refl _
    within  := first.le
    asking  := fun _ => ⟨rfl, rfl⟩
    lost    := fun _ none => absurd none (Set.notMem_empty _)
    running := fun runs => absurd rfl runs
    heard   := fun k _ after before => absurd (after.trans_lt before) (lt_irrefl _)
    unheard := fun _ => rfl }

theorem publish (h : s.Sound) (e : Event) : (s.publish e).Sound := by
  have longer : s.events.length < (s.publish e).events.length := by simp [Watch.publish]
  have same {k : ℕ} (before : k < s.cursor) : (s.publish e).wordAt k = s.wordAt k :=
    wordAt_publish (before.trans_le h.within)
  exact {
    carries := h.carries.publish e
    begun   := h.begun
    within  := h.within.trans longer.le
    asking  := h.asking
    lost    := fun k lost => ⟨(h.lost k lost).1, (h.lost k lost).2.trans longer⟩
    running := h.running
    heard   := fun k w after before reached word later =>
      h.heard k w after before reached (same before ▸ word) fun j le lt => same lt ▸ later j le lt
    unheard := fun silent => h.unheard fun k after before reached => same before ▸ silent k after before reached }

theorem settle (h : s.Sound) (asking : s.asking) : (s.settle answer free).Sound := by
  have ⟨unread, untold⟩ := h.asking asking
  exact { h with
    asking  := nofun
    running := by
      intro runs
      cases answer with
      | none => exact nomatch untold.symm.trans (h.running runs)
      | some w => exact congrArg some (Manager.running_reconcile runs)
    heard   := fun k _ after before => absurd (before.trans_le (unread.le.trans after)) (lt_irrefl _)
    unheard := fun _ => rfl }

theorem running_read (h : s.Sound) (runs : (s.read e cursor free).manager.running ≠ []) :
    (s.read e cursor free).word = some (true, true) := by
  simp only [Watch.read] at runs ⊢
  cases told : e.word? with
  | none =>
    rw [Manager.observe_of_no_word told] at runs
    exact h.running runs
  | some w =>
    rw [Manager.observe_of_word? told] at runs
    exact congrArg some (Manager.running_reconcile runs)

theorem lost_read (h : s.Sound) (skips : s.bus.Skips s.cursor place) (lost : k ∈ (s.read e (place + 1) free).lost) :
    k < place ∧ k + s.bus.capacity < s.events.length := by
  rcases lost with lost | ⟨late, old⟩
  · exact ⟨(h.lost k lost).1.trans_le skips.behind, (h.lost k lost).2⟩
  · have oldest := h.carries.oldest_eq
    exact ⟨(skips.gap k late).mpr old, by omega⟩

theorem heard_read (h : s.Sound) (skips : s.bus.Skips s.cursor place) (found : s.wordAt place = e.word?)
    (after : s.first ≤ k) (before : k < place + 1) (reached : k ∉ (s.read e (place + 1) free).lost)
    (word : s.wordAt k = some w) (later : ∀ j, k < j → j < place + 1 → s.wordAt j = none) :
    (s.read e (place + 1) free).word = some w := by
  rcases Nat.lt_succ_iff_lt_or_eq.mp before with before | rfl
  case inl =>
    have read : k < s.cursor := by
      by_contra! late
      exact reached (.inr ⟨late, (skips.gap k late).mp before⟩)
    have silent : e.word? = none := found.symm.trans (later place before (Nat.lt_succ_self _))
    have same : s.word = some w := h.heard k w after read (reached ∘ .inl) word fun j le lt =>
      later j le (lt.trans_le (skips.behind.trans (Nat.le_succ _)))
    simpa [Watch.read, silent] using same
  case inr =>
    have told : e.word? = some w := found.symm.trans word
    simp [Watch.read, told]

theorem unheard_read (h : s.Sound) (skips : s.bus.Skips s.cursor place) (found : s.wordAt place = e.word?)
    (silent : ∀ k, s.first ≤ k → k < place + 1 → k ∉ (s.read e (place + 1) free).lost → s.wordAt k = none) :
    (s.read e (place + 1) free).word = s.answer := by
  have reached : place ∉ (s.read e (place + 1) free).lost := fun lost => lt_irrefl _ (h.lost_read skips lost).1
  have untold : e.word? = none :=
    found.symm.trans (silent place (h.begun.trans skips.behind) (Nat.lt_succ_self _) reached)
  have same : s.word = s.answer := h.unheard fun k after before known => by
    refine silent k after (before.trans_le (skips.behind.trans (Nat.le_succ _))) ?_
    rintro (lost | ⟨late, _⟩)
    · exact known lost
    · exact absurd (before.trans_le late) (lt_irrefl _)
  simpa [Watch.read, untold] using same

theorem read (h : s.Sound) (asked : ¬s.asking) (next : s.bus.next? s.cursor = some (e, cursor)) :
    (s.read e cursor free).Sound := by
  obtain ⟨place, skips, found, rfl⟩ := h.carries.skips_of_next? next
  have ⟨inside, _⟩ := List.getElem?_eq_some_iff.mp found
  have wordAt_place : s.wordAt place = e.word? := by rw [wordAt, found, Option.bind_some]
  exact {
    carries := h.carries
    begun   := (h.begun.trans skips.behind).trans (Nat.le_succ _)
    within  := inside
    asking  := fun asking => absurd asking asked
    lost    := fun _ lost => (h.lost_read skips lost).imp_left Nat.lt_succ_of_lt
    running := running_read h
    heard   := fun _ _ after before reached word later =>
      h.heard_read skips wordAt_place after before reached word later
    unheard := h.unheard_read skips wordAt_place }

theorem step (h : s.Sound) (step : Step s s') : s'.Sound := by
  cases step with
  | publish e => exact h.publish e
  | settle answer free asking => exact h.settle asking
  | read free asked next => exact h.read asked next

theorem of_reachable (reached : Relation.ReflTransGen Step (Watch.start capacity earlier singletons) s) :
    s.Sound := by
  induction reached with
  | refl => exact .start
  | tail _ step ih => exact ih.step step

end Sound

theorem running_only_by_last_word
    (reached : Relation.ReflTransGen Step (start capacity earlier singletons) s)
    (caughtUp : s.bus.next? s.cursor = none) (runs : s.manager.running ≠ []) :
    s.word = some (true, true) ∧ ∀ k w, s.Latest k w →
      w = (true, true) ∨ (k ∈ s.lost ∧ k + s.bus.capacity < s.events.length) ∨
        k < s.first ∧ s.answer ≠ some w := by
  have sound := Sound.of_reachable reached
  have word : s.word = some (true, true) := sound.running runs
  refine ⟨word, fun k w latest => ?_⟩
  have all : s.events.length ≤ s.cursor := sound.carries.next?_eq_none_iff.mp caughtUp
  by_cases earlier : k < s.first
  case pos =>
    have same : s.word = s.answer := sound.unheard fun j after _ _ => latest.later j (earlier.trans_le after)
    by_cases honest : s.answer = some w
    · exact .inl (Option.some_inj.mp ((same.trans honest).symm.trans word))
    · exact .inr (.inr ⟨earlier, honest⟩)
  case neg =>
    by_cases lost : k ∈ s.lost
    · exact .inr (.inl ⟨lost, (sound.lost k lost).2⟩)
    · have published : k < s.events.length := by
        by_contra! missing
        have word := latest.word
        rw [wordAt, List.getElem?_eq_none missing] at word
        exact nomatch word
      have same : s.word = some w :=
        sound.heard k w (not_lt.mp earlier) (published.trans_le all) lost latest.word fun j le _ => latest.later j le
      exact .inl (Option.some_inj.mp (same.symm.trans word))

-- There is room for one event only, and before the manager reads on, more is published than that its node is not in
-- quorum any more.
def leads : Event := .leaderChanged (some "a") true true
def outvoted : Event := .leaderChanged (some "a") true false
def ailing : Event := .datacenterHealthChanged "d" 0 1

def inattentive : Watch :=
  let told := (((start 1 [] ["x"]).settle none fun _ => true).publish leads).read leads 1 fun _ => true
  ((told.publish outvoted).publish ailing).read ailing 3 fun _ => true

theorem reachable_inattentive : Relation.ReflTransGen Step (start 1 [] ["x"]) inattentive := by
  have asked : Relation.ReflTransGen Step (start 1 [] ["x"]) _ := .single (.settle none (fun _ => true) rfl)
  have told := (asked.tail (.publish leads)).tail
    (.read (e := leads) (c := 1) (fun _ => true) Bool.false_ne_true (by decide +kernel))
  exact ((told.tail (.publish outvoted)).tail (.publish ailing)).tail
    (.read (e := ailing) (c := 3) (fun _ => true) Bool.false_ne_true (by decide +kernel))

theorem inattentive_caughtUp : inattentive.bus.next? inattentive.cursor = none := by decide +kernel

theorem inattentive_running : inattentive.manager.running = ["x"] := by decide +kernel

theorem running_only_by_last_word_missed :
    Relation.ReflTransGen Step (start 1 [] ["x"]) inattentive ∧
      inattentive.bus.next? inattentive.cursor = none ∧ inattentive.manager.running ≠ [] ∧
      inattentive.word = some (true, true) ∧ ∀ k w, inattentive.Latest k w →
        w = (true, true) ∨ (k ∈ inattentive.lost ∧ k + inattentive.bus.capacity < inattentive.events.length) ∨
          k < inattentive.first ∧ inattentive.answer ≠ some w :=
  have runs : inattentive.manager.running ≠ [] := inattentive_running ▸ List.cons_ne_nil _ _
  ⟨reachable_inattentive, inattentive_caughtUp, runs,
    running_only_by_last_word reachable_inattentive inattentive_caughtUp runs⟩

theorem running_out_of_quorum :
    Relation.ReflTransGen Step (start 1 [] ["x"]) inattentive ∧
      inattentive.bus.next? inattentive.cursor = none ∧ inattentive.manager.running = ["x"] ∧
      inattentive.Latest 1 (true, false) := by
  refine ⟨reachable_inattentive, inattentive_caughtUp, inattentive_running, rfl, fun j late => ?_⟩
  match j with
  | 2 => rfl
  | j + 3 => rfl

end Watch

end GossipCluster
