import GossipCluster.RateLimit.Limiter
import GossipCluster.Proofs.RateLimit.Grants
import GossipCluster.Proofs.Table.Eviction

namespace GossipCluster

variable {α : Type} [Quantity α]

namespace TokenBucket

def after (b : TokenBucket α) (times : List Instant) : TokenBucket α :=
  times.foldl (fun b time => (b.tryAcquire time).2) b

-- What a bucket says now that was used at these times before, by nobody else, and was full at the first of all.
def alone (rate : α) (burst : ℕ) (times : List Instant) (now : Instant) : Bool :=
  (((new rate burst (times.headD now)).after times).tryAcquire now).1

-- The bucket that these times leave behind. Without any there is none.
def left? (rate : α) (burst : ℕ) (times : List Instant) : Option (TokenBucket α) :=
  times.head?.map fun first => (new rate burst first).after times

variable {rate : α} {burst : ℕ} {times : List Instant} {now : Instant}

theorem getD_left? :
    (left? rate burst times).getD (new rate burst now) = (new rate burst (times.headD now)).after times := by
  cases times <;> rfl

theorem left?_concat : left? rate burst (times ++ [now]) =
    some (((left? rate burst times).getD (new rate burst now)).tryAcquire now).2 := by
  cases times with
  | nil => rfl
  | cons first times => simp [left?, after]

end TokenBucket

namespace JoinLimiter

open TokenBucket (alone left? left?_concat getD_left?)

abbrev Call := String × Instant

def after (l : JoinLimiter α) (calls : List Call) : JoinLimiter α :=
  calls.foldl (fun l call => (l.allow call.1 call.2).2) l

-- Whether an address loses its bucket by a call.
def Evicts (l : JoinLimiter α) (call : Call) (address : String) : Prop :=
  l.buckets.contains address ∧ ¬(l.allow call.1 call.2).2.buckets.contains address

instance {l : JoinLimiter α} {call : Call} {address : String} : Decidable (l.Evicts call address) :=
  inferInstanceAs (Decidable (_ ∧ _))

-- The times at which an address has called since it was evicted last, or else since the start.
def stay (l : JoinLimiter α) (address : String) (times : List Instant) : List Call → List Instant
  | [] => times
  | call :: calls => (l.allow call.1 call.2).2.stay address
      (if l.Evicts call address then [] else if call.1 = address then times ++ [call.2] else times) calls

def lastCall? (address : String) (calls : List Call) : Option Instant :=
  (calls.reverse.find? (·.1 == address)).map (·.2)

-- What these calls make of a limiter that is new.
structure Isolated (rate : α) (burst maxEntries : ℕ) (calls : List Call) (l : JoinLimiter α) : Prop where
  bounded : l.tracked ≤ max maxEntries 1
  answer  : ∀ address now,
    (l.allow address now).1 = alone rate burst ((new rate burst maxEntries).stay address [] calls) now
  crowded : ∀ call address, l.Evicts call address → ¬l.buckets.contains call.1 ∧ l.tracked = max maxEntries 1
  longest : ∀ call address, l.Evicts call address → ∃ time, lastCall? address calls = some time ∧
    ∀ other, l.buckets.contains other → ∃ later, lastCall? other calls = some later ∧ time ≤ later
  single  : ∀ call address other, l.Evicts call address → l.Evicts call other → address = other

-- The rate limits something, and there is room for the buckets that are there.
structure Limiting (l : JoinLimiter α) : Prop where
  rate : Quantity.atMost l.rate (Quantity.ofNat 0) = false
  room : 0 < l.maxEntries
  fits : l.tracked ≤ l.maxEntries

-- Every bucket was used last when its address called last.
def Dated (l : JoinLimiter α) (calls : List Call) : Prop :=
  ∀ address b, l.buckets.get? address = some b → lastCall? address calls = some b.filled

variable {l : JoinLimiter α} {address other : String} {now : Instant} {times : List Instant} {call : Call}
  {calls more : List Call} {rate : α} {burst maxEntries : ℕ}

omit [Quantity α] in
theorem oldest?_eq : oldest? l.buckets = (l.buckets.rows.argmin fun e => e.2.filled).map Prod.fst := by
  have : oldest?.earlier = List.argAux (α := String × TokenBucket α) fun b c => b.2.filled < c.2.filled := by
    funext least e
    cases least <;> rfl
  rw [oldest?, this]
  rfl

omit [Quantity α] in
theorem makesRoom (pos : 0 < l.maxEntries) :
    Dict.MakesRoom TokenBucket.filled l.maxEntries l.buckets address (l.makeRoom address) := by
  rw [makeRoom]
  split
  case isTrue room =>
    rcases Bool.or_eq_true_iff.mp room with present | spare
    · exact .present present
    · exact .spare (of_decide_eq_true spare)
  case isFalse room =>
    obtain ⟨absent, full⟩ : ¬l.buckets.contains address ∧ l.maxEntries ≤ l.buckets.size := by simpa using room
    rw [oldest?_eq]
    split
    case h_1 oldest found => exact .evict absent full (Dict.oldest_of_argmin found)
    case h_2 nobody => exact absurd (Dict.size_eq_zero_of_argmin nobody) (by omega)

theorem allow_eq (h : l.Limiting) : l.allow address now =
    let bucket := ((l.buckets.get? address).getD (.new l.rate l.burst now)).tryAcquire now
    (bucket.1, { l with buckets := (l.makeRoom address).put address bucket.2 }) := by
  rw [allow, h.rate, ← (makesRoom h.room).get?_self]
  rfl

theorem settings_allow (h : l.Limiting) (address : String) (now : Instant) : (l.allow address now).2.rate = l.rate ∧
    (l.allow address now).2.burst = l.burst ∧ (l.allow address now).2.maxEntries = l.maxEntries := by
  rw [allow_eq h]
  exact ⟨rfl, rfl, rfl⟩

theorem get?_allow_self (h : l.Limiting) : (l.allow address now).2.buckets.get? address =
    some (((l.buckets.get? address).getD (.new l.rate l.burst now)).tryAcquire now).2 := by
  rw [allow_eq h, Dict.get?_put, if_pos rfl]

theorem get?_of_get?_allow {b : TokenBucket α} (h : l.Limiting) (ne : call.1 ≠ address)
    (found : (l.allow call.1 call.2).2.buckets.get? address = some b) : l.buckets.get? address = some b := by
  rw [allow_eq h, Dict.get?_put, if_neg ne] at found
  exact (makesRoom h.room).get?_of_get? found

theorem not_evicts_self (h : l.Limiting) : ¬l.Evicts (address, now) address :=
  fun ⟨_, lost⟩ => lost (Dict.contains_of_get? (get?_allow_self h))

theorem get?_allow_of_ne (h : l.Limiting) (ne : call.1 ≠ address) : (l.allow call.1 call.2).2.buckets.get? address =
    if l.Evicts call address then none else l.buckets.get? address := by
  split
  case isTrue evicted => simpa [Dict.contains_eq_isSome] using evicted.2
  case isFalse kept =>
    cases found : (l.allow call.1 call.2).2.buckets.get? address with
    | some b => exact (get?_of_get?_allow h ne found).symm
    | none =>
      refine (Option.not_isSome_iff_eq_none.mp fun known => kept ⟨?_, ?_⟩).symm
      · rwa [Dict.contains_eq_isSome]
      · rw [Dict.contains_eq_isSome, found]
        exact Bool.false_ne_true

theorem lost_of_evicts (h : l.Limiting) (evicted : l.Evicts call address) :
    ¬l.buckets.contains call.1 ∧ l.maxEntries ≤ l.tracked ∧ l.buckets.Oldest TokenBucket.filled address := by
  have lost := evicted.2
  rw [allow_eq h] at lost
  have ⟨new, full, oldest, _⟩ := (makesRoom h.room).oldest_of_lost evicted.1 lost
  exact ⟨new, full, oldest⟩

theorem lastCall?_concat :
    lastCall? address (calls ++ [call]) = if call.1 = address then some call.2 else lastCall? address calls := by
  rw [lastCall?, List.reverse_concat]
  split
  case isTrue same =>
    rw [List.find?_cons_of_pos (by simpa using same)]
    rfl
  case isFalse other =>
    rw [List.find?_cons_of_neg (by simpa using other)]
    rfl

namespace Limiting

theorem allow (h : l.Limiting) (address : String) (now : Instant) : (l.allow address now).2.Limiting := by
  rw [allow_eq h]
  exact ⟨h.rate, h.room, (makesRoom h.room).size_put_le h.fits⟩

theorem after (h : l.Limiting) (calls : List Call) : (l.after calls).Limiting := by
  induction calls generalizing l with
  | nil => exact h
  | cons call calls ih => exact ih (h.allow ..)

end Limiting

theorem limiting_new (limited : Quantity.atMost rate (Quantity.ofNat 0) = false) :
    (new rate burst maxEntries).Limiting :=
  ⟨limited, Nat.lt_of_lt_of_le Nat.one_pos (le_max_right ..), Nat.zero_le _⟩

theorem settings_after (h : l.Limiting) (calls : List Call) :
    (l.after calls).rate = l.rate ∧ (l.after calls).burst = l.burst ∧ (l.after calls).maxEntries = l.maxEntries := by
  induction calls generalizing l with
  | nil => exact ⟨rfl, rfl, rfl⟩
  | cons call calls ih =>
    have ⟨rate, burst, maxEntries⟩ := settings_allow h call.1 call.2
    have ⟨rate', burst', maxEntries'⟩ := ih (h.allow call.1 call.2)
    exact ⟨rate'.trans rate, burst'.trans burst, maxEntries'.trans maxEntries⟩

theorem dated_allow (h : l.Limiting) (dated : l.Dated calls) : (l.allow call.1 call.2).2.Dated (calls ++ [call]) := by
  intro address b found
  rw [lastCall?_concat]
  split
  case isTrue self =>
    subst self
    rw [get?_allow_self h] at found
    rw [← Option.some_inj.mp found, TokenBucket.filled_tryAcquire]
  case isFalse ne => exact dated address b (get?_of_get?_allow h ne found)

theorem dated_after (h : l.Limiting) (dated : l.Dated calls) : (l.after more).Dated (calls ++ more) := by
  induction more generalizing l calls with
  | nil => rwa [List.append_nil]
  | cons call more ih =>
    rw [List.append_cons]
    exact ih (h.allow ..) (dated_allow h dated)

-- The bucket of an address is what its own calls have made of it.
theorem get?_after (h : l.Limiting) (held : l.buckets.get? address = left? l.rate l.burst times) :
    (l.after calls).buckets.get? address = left? l.rate l.burst (l.stay address times calls) := by
  induction calls generalizing l times with
  | nil => exact held
  | cons call calls ih =>
    have ⟨rate, burst, _⟩ := settings_allow h call.1 call.2
    rw [stay, ← rate, ← burst]
    refine ih (h.allow ..) ?_
    rw [rate, burst]
    by_cases self : call.1 = address
    case pos =>
      subst self
      rw [if_neg (not_evicts_self h), if_pos rfl, left?_concat, ← held]
      exact get?_allow_self h
    case neg =>
      rw [get?_allow_of_ne h self, held, if_neg self]
      split <;> rfl

theorem allow_isolated (limited : Quantity.atMost rate (Quantity.ofNat 0) = false) (calls : List Call) :
    Isolated rate burst maxEntries calls ((new rate burst maxEntries).after calls) := by
  have start : (new rate burst maxEntries).Limiting := limiting_new limited
  have h := start.after calls
  have ⟨sameRate, sameBurst, sameBound⟩ := settings_after start calls
  have bound : ((new rate burst maxEntries).after calls).maxEntries = max maxEntries 1 := sameBound
  have dated : ((new rate burst maxEntries).after calls).Dated ([] ++ calls) := dated_after start nofun
  constructor
  case bounded => exact bound ▸ h.fits
  case answer =>
    intro address now
    have held : ((new rate burst maxEntries).after calls).buckets.get? address =
        left? rate burst ((new rate burst maxEntries).stay address [] calls) := get?_after start rfl
    rw [allow_eq h, held, sameRate, sameBurst]
    exact congrArg (fun b : TokenBucket α => (b.tryAcquire now).1) getD_left?
  case crowded =>
    intro call address evicted
    have ⟨absent, full, _⟩ := lost_of_evicts h evicted
    exact ⟨absent, bound ▸ h.fits.antisymm full⟩
  case longest =>
    intro call address evicted
    obtain ⟨_, _, b, found, least⟩ := lost_of_evicts h evicted
    refine ⟨b.filled, dated address b found, fun other known => ?_⟩
    rw [Dict.contains_eq_isSome] at known
    obtain ⟨b', found'⟩ := Option.isSome_iff_exists.mp known
    exact ⟨b'.filled, dated other b' found', least other b' found'⟩
  case single =>
    intro call address other evicted evicted'
    have lost := evicted.2
    have lost' := evicted'.2
    rw [allow_eq h] at lost lost'
    exact (makesRoom h.room).eq_of_lost evicted.1 lost evicted'.1 lost'

-- There is room for two. The third address takes the place of the one that was silent for longest, which was full
-- when it was new and is full again when it comes back.
theorem allow_isolated_returned :
    let calls : List Call := [("a", 0), ("b", 1000000), ("a", 2000000), ("b", 3000000), ("c", 4000000)]
    let limiter : JoinLimiter ℚ := new 1 1 2
    let l := limiter.after calls
    Quantity.atMost (1 : ℚ) (Quantity.ofNat 0) = false ∧
      (limiter.after (calls.take 4)).Evicts ("c", 4000000) "a" ∧ l.Evicts ("a", 5000000) "b" ∧
      limiter.stay "a" [] (calls.take 4) = [0, 2000000] ∧ limiter.stay "a" [] calls = [] ∧
      ((limiter.after (calls.take 2)).allow "a" 2000000).1 = false ∧ (l.allow "a" 5000000).1 = true ∧
      Isolated (1 : ℚ) 1 2 calls l := by
  intro calls limiter l
  have limited : Quantity.atMost (1 : ℚ) (Quantity.ofNat 0) = false := by decide +kernel
  exact ⟨limited, by decide +kernel, by decide +kernel, by decide +kernel, by decide +kernel, by decide +kernel,
    by decide +kernel, allow_isolated limited calls⟩

end JoinLimiter

end GossipCluster
