import Mathlib
import GossipCluster.Event.Bus

namespace GossipCluster.Bus

variable {b : Bus} {events : List Event} {e : Event} {c : Cursor}

-- The number of the oldest event that can still be read.
def oldest (b : Bus) : ℕ := b.published - b.recent.length

-- From one place to another there is what is too old to be read, and nothing else.
structure Skips (b : Bus) (c : Cursor) (place : ℕ) : Prop where
  behind : c ≤ place
  gap    : ∀ k, c ≤ k → (k < place ↔ k < b.oldest)

-- So far these events have been published, in this order.
structure Carries (b : Bus) (events : List Event) : Prop where
  published : b.published = events.length
  recent    : b.recent = events.drop (events.length - b.capacity)
  roomy     : 0 < b.capacity

namespace Carries

theorem new (capacity : ℕ) : (Bus.new capacity).Carries [] := by
  refine ⟨rfl, List.drop_nil.symm, ?_⟩
  exact Nat.pos_of_isPowerOfTwo (Nat.isPowerOfTwo_nextPowerOfTwo _)

theorem publish (h : b.Carries events) (e : Event) : (b.publish e).Carries (events ++ [e]) := by
  have ⟨published, recent, roomy⟩ := h
  refine ⟨by simp [Bus.publish, published], ?_, roomy⟩
  have length : (b.recent ++ [e]).length = events.length - (events.length - b.capacity) + 1 := by
    simp [recent]
  have append : b.recent ++ [e] = (events ++ [e]).drop (events.length - b.capacity) := by
    rw [recent, List.drop_append_of_le_length (by omega)]
  simp only [Bus.publish]
  rw [length, append, List.drop_drop, List.length_append, List.length_singleton]
  congr 1
  omega

theorem foldl_publish (h : b.Carries events) (later : List Event) :
    (later.foldl Bus.publish b).Carries (events ++ later) := by
  induction later generalizing b events with
  | nil => simpa using h
  | cons e later ih => simpa using ih (h.publish e)

theorem oldest_eq (h : b.Carries events) : b.oldest = events.length - b.capacity := by
  rw [oldest, h.published, h.recent, List.length_drop]
  omega

theorem next?_eq (h : b.Carries events) :
    b.next? c = (events[max c b.oldest]?).map (·, max c b.oldest + 1) := by
  have place : events.length - b.capacity + (max c b.oldest - b.oldest) = max c b.oldest := by
    rw [← h.oldest_eq]
    omega
  rw [next?, ← oldest, h.recent, List.getElem?_drop, place]

-- A subscriber reads on at some place, and all that it skips on the way there is too old.
theorem skips_of_next? {next : Cursor} (h : b.Carries events) (found : b.next? c = some (e, next)) :
    ∃ place, b.Skips c place ∧ events[place]? = some e ∧ next = place + 1 := by
  rw [h.next?_eq, Option.map_eq_some_iff] at found
  obtain ⟨_, found, same⟩ := found
  obtain ⟨rfl, rfl⟩ := Prod.mk.inj same
  refine ⟨_, ⟨le_max_left _ _, fun k late => ?_⟩, found, rfl⟩
  rw [lt_max_iff, or_iff_right (not_lt.mpr late)]

-- Nothing is left to read once all has been read or lost.
theorem next?_eq_none_iff (h : b.Carries events) : b.next? c = none ↔ events.length ≤ c := by
  have oldest := h.oldest_eq
  have roomy := h.roomy
  rw [h.next?_eq, Option.map_eq_none_iff, List.getElem?_eq_none_iff]
  cases events with
  | nil => simp
  | cons => simp_all; omega

end Carries

end GossipCluster.Bus
