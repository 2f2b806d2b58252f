import Mathlib
import GossipCluster.Text.Blank

namespace GossipCluster.Text

-- What is left of `s` when its ends are taken off as far as they have the property.
structure Stripped (p : Char → Bool) (s t : String) : Prop where
  around : ∃ front back, s.toList = front ++ t.toList ++ back ∧ (∀ c ∈ front, p c) ∧ ∀ c ∈ back, p c
  first  : ∀ c ∈ t.toList.head?, ¬p c
  last   : ∀ c ∈ t.toList.getLast?, ¬p c

def strip (p : Char → Bool) (s : String) : String := .ofList ((s.toList.dropWhile p).rdropWhile p)

theorem trim_eq {s : String} : trim s = strip isBlank s := rfl

variable {p : Char → Bool} {s t : String} {front back l : List Char}

theorem head?_dropWhile : ∀ c ∈ (l.dropWhile p).head?, ¬p c := by
  intro c first
  have := List.head?_dropWhile_not p l
  rw [Option.mem_def.mp first] at this
  simpa using this

theorem getLast?_rdropWhile : ∀ c ∈ (l.rdropWhile p).getLast?, ¬p c := by
  rw [List.rdropWhile, List.getLast?_reverse]
  exact head?_dropWhile

theorem head?_mono {k : List Char} (h : k <+: l) : ∀ c ∈ k.head?, c ∈ l.head? := by
  obtain ⟨rest, rfl⟩ := h
  intro c first
  rw [List.head?_append, Option.mem_def.mp first]
  rfl

theorem dropWhile_append (all : ∀ c ∈ front, p c) (stop : ∀ c ∈ l.head?, ¬p c) : (front ++ l).dropWhile p = l := by
  rw [List.dropWhile_append_of_pos all]
  cases l with
  | nil => rfl
  | cons c l => exact List.dropWhile_cons_of_neg (stop c rfl)

theorem rdropWhile_append (all : ∀ c ∈ back, p c) (stop : ∀ c ∈ l.getLast?, ¬p c) :
    (l ++ back).rdropWhile p = l := by
  have reversed : (l ++ back).reverse.dropWhile p = l.reverse := by
    rw [List.reverse_append]
    exact dropWhile_append (by simpa using all) (by simpa using stop)
  rw [List.rdropWhile, reversed, List.reverse_reverse]

theorem stripped_strip : Stripped p s (strip p s) where
  around := by
    refine ⟨s.toList.takeWhile p, (s.toList.dropWhile p).rtakeWhile p, ?_, ?_, ?_⟩
    · rw [strip, String.toList_ofList, List.append_assoc, List.rdropWhile_append_rtakeWhile,
        List.takeWhile_append_dropWhile]
    · exact fun _ => List.mem_takeWhile_imp
    · exact fun _ => List.mem_rtakeWhile_imp
  first c first := by
    rw [strip, String.toList_ofList] at first
    exact head?_dropWhile c (head?_mono (List.rdropWhile_prefix p _) c first)
  last := by
    rw [strip, String.toList_ofList]
    exact getLast?_rdropWhile

theorem dropEnds_append (hfront : ∀ c ∈ front, p c) (hback : ∀ c ∈ back, p c) (first : ∀ c ∈ l.head?, ¬p c)
    (last : ∀ c ∈ l.getLast?, ¬p c) : ((front ++ l ++ back).dropWhile p).rdropWhile p = l := by
  rw [List.append_assoc]
  cases l with
  | nil =>
    -- Nothing is kept, so that the front goes on through the back.
    have all : ∀ c ∈ front ++ back, p c := fun c hc => (List.mem_append.mp hc).elim (hfront c) (hback c)
    rw [List.nil_append, List.dropWhile_eq_nil_iff.mpr all]
    rfl
  | cons c rest =>
    have kept : (front ++ (c :: rest ++ back)).dropWhile p = c :: rest ++ back := dropWhile_append hfront first
    rw [kept, rdropWhile_append hback last]

theorem stripped_iff : Stripped p s t ↔ strip p s = t := by
  constructor
  case mp =>
    rintro ⟨⟨front, back, around, hfront, hback⟩, first, last⟩
    rw [strip, around, dropEnds_append hfront hback first last]
    exact String.ofList_toList
  case mpr =>
    rintro rfl
    exact stripped_strip

theorem cut_iff {c x : Char} : l.takeWhile (· != c) = front ∧ l.dropWhile (· != c) = x :: back ↔
    x = c ∧ c ∉ front ∧ l = front ++ c :: back := by
  constructor
  case mp =>
    rintro ⟨rfl, rest⟩
    have stops : ¬(x != c) := head?_dropWhile (p := (· != c)) (l := l) x (by rw [rest]; rfl)
    obtain rfl : x = c := by simpa using stops
    have before : x ∉ l.takeWhile (· != x) := fun mem => by simpa using List.mem_takeWhile_imp mem
    exact ⟨rfl, before, by rw [← rest, List.takeWhile_append_dropWhile]⟩
  case mpr =>
    rintro ⟨rfl, before, rfl⟩
    have passes : ∀ a ∈ front, a != x := fun a ha => bne_iff_ne.mpr (ne_of_mem_of_not_mem ha before)
    rw [List.takeWhile_append_of_pos passes, List.dropWhile_append_of_pos passes]
    simp

end GossipCluster.Text
