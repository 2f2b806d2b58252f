import Mathlib
import GossipCluster.Address.Allowlist
import GossipCluster.Proofs.Text.Decimal
import GossipCluster.Proofs.Text.Ends

namespace GossipCluster.Address

-- The text of a host, a colon and a port.
inductive Written (host : String) (port : ℕ) : String → Prop
  | plain (digits : String) (read : Text.natural? portLimit digits = some port) (colonless : ':' ∉ host.toList)
      (bare : host.toList.head? ≠ some '[') : Written host port (host ++ ":" ++ digits)
  | bracketed (digits : String) (read : Text.natural? portLimit digits = some port) (closed : ']' ∉ host.toList) :
      Written host port ("[" ++ host ++ "]:" ++ digits)

-- The host of an address with a port, or else all of it.
def HostOf (address host : String) : Prop :=
  (∃ port, Written host port address) ∨ (∀ host port, ¬Written host port address) ∧ host = address

variable {address host : String} {port : ℕ} {c : Char} {cs front back h p : List Char}

theorem splitLast_eq_some_iff : splitLast c cs = some (front, back) ↔ c ∉ back ∧ cs = front ++ c :: back := by
  constructor
  case mp =>
    intro h
    rw [splitLast] at h
    cases rest : cs.reverse.dropWhile (· != c) with
    | nil => simp [rest] at h
    | cons x before =>
      have ⟨_, after, reversed⟩ := Text.cut_iff.mp ⟨rfl, rest⟩
      simp only [rest, Option.some.injEq, Prod.mk.injEq] at h
      obtain ⟨rfl, rfl⟩ := h
      refine ⟨by simpa using after, ?_⟩
      simpa using congrArg List.reverse reversed
  case mpr =>
    rintro ⟨after, rfl⟩
    have reversed : (front ++ c :: back).reverse = back.reverse ++ c :: front.reverse := by simp
    have ⟨kept, rest⟩ := Text.cut_iff.mpr ⟨rfl, by simpa using after, reversed⟩
    rw [splitLast, kept, rest]
    simp

-- The two parts of an address, before the port is read.
def parts? : List Char → Option (List Char × List Char)
  | '[' :: r => match r.dropWhile (· != ']') with
    | _ :: ':' :: port => some (r.takeWhile (· != ']'), port)
    | _ => none
  | cs => do
    let (host, port) ← splitLast ':' cs
    if host.contains ':' then none else some (host, port)

theorem parts?_bracketed {r : List Char} :
    parts? ('[' :: r) = some (h, p) ↔ ']' ∉ h ∧ r = h ++ ']' :: ':' :: p := by
  constructor
  case mp =>
    intro parted
    rw [parts?] at parted
    split at parted
    case h_1 rest =>
      obtain ⟨rfl, rfl⟩ := Prod.mk.inj (Option.some_inj.mp parted)
      exact (Text.cut_iff.mp ⟨rfl, rest⟩).2
    case h_2 => exact nomatch parted
  case mpr =>
    rintro ⟨closed, e⟩
    have ⟨kept, rest⟩ := Text.cut_iff.mpr ⟨rfl, closed, e⟩
    simp only [parts?, rest, kept]

theorem parts?_bare (bare : cs.head? ≠ some '[') :
    parts? cs = some (h, p) ↔ ':' ∉ h ∧ ':' ∉ p ∧ cs = h ++ ':' :: p := by
  have parted : parts? cs = (splitLast ':' cs).bind fun (host, port) =>
      if host.contains ':' then none else some (host, port) := by
    fun_cases parts? cs with
    | case1 | case2 => exact absurd rfl bare
    | case3 => rfl
  rw [parted]
  constructor
  case mp =>
    intro found
    obtain ⟨⟨front, back⟩, last, single⟩ := Option.bind_eq_some_iff.mp found
    have ⟨after, e⟩ := splitLast_eq_some_iff.mp last
    have ⟨before, same⟩ := Option.ite_none_left_eq_some.mp single
    obtain ⟨rfl, rfl⟩ := Prod.mk.inj (Option.some_inj.mp same)
    exact ⟨by simpa using before, after, e⟩
  case mpr =>
    rintro ⟨before, after, e⟩
    rw [splitLast_eq_some_iff.mpr ⟨after, e⟩, Option.bind_some]
    exact if_neg (by simpa using before)

theorem split?_eq : split? address = (parts? address.toList).bind fun (host, port) =>
    (Text.natural? portLimit (.ofList port)).bind fun n => some (.ofList host, n) := by
  rw [split?]
  generalize address.toList = cs
  fun_cases parts? cs with
  | case1 r closing port found =>
    simp only [found]
    rfl
  | case2 r unclosed =>
    simp only
    rfl
  | case3 cs bare =>
    simp only
    cases splitLast ':' cs with
    | none => rfl
    | some parts =>
      simp only [Option.bind_eq_bind, Option.bind_some]
      split <;> rfl

theorem colon_not_mem_of_natural? {s : String} {limit n : ℕ} (read : Text.natural? limit s = some n) :
    ':' ∉ s.toList := fun colon => by
  rcases Text.mem_of_natural? read _ colon with plus | digit <;> contradiction

theorem split?_of_parts {digits : String} (parted : parts? address.toList = some (host.toList, digits.toList))
    (read : Text.natural? portLimit digits = some port) : split? address = some (host, port) := by
  rw [split?_eq, parted]
  simp only [Option.bind_some, String.ofList_toList, read]

-- No bracket opens before the colon.
theorem head?_append_colon : (front ++ ':' :: back).head? ≠ some '[' ↔ front.head? ≠ some '[' := by
  cases front <;> simp

theorem split?_of_written (h : Written host port address) : split? address = some (host, port) := by
  cases h with
  | plain digits read colonless bare =>
    have text : (host ++ ":" ++ digits).toList = host.toList ++ ':' :: digits.toList := by simp
    refine split?_of_parts ?_ read
    rw [text]
    exact (parts?_bare (head?_append_colon.mpr bare)).mpr ⟨colonless, colon_not_mem_of_natural? read, rfl⟩
  | bracketed digits read closed =>
    have text : ("[" ++ host ++ "]:" ++ digits).toList = '[' :: (host.toList ++ ']' :: ':' :: digits.toList) := by simp
    refine split?_of_parts ?_ read
    rw [text]
    exact parts?_bracketed.mpr ⟨closed, rfl⟩

theorem written_of_split? (h : split? address = some (host, port)) : Written host port address := by
  rw [split?_eq] at h
  obtain ⟨⟨front, back⟩, parted, h⟩ := Option.bind_eq_some_iff.mp h
  obtain ⟨n, read, h⟩ := Option.bind_eq_some_iff.mp h
  obtain ⟨rfl, rfl⟩ := Prod.mk.inj (Option.some_inj.mp h)
  by_cases bare : address.toList.head? = some '['
  case pos =>
    obtain ⟨r, text⟩ := List.head?_eq_some_iff.mp bare
    rw [text, parts?_bracketed] at parted
    obtain ⟨closed, rfl⟩ := parted
    have e : address = "[" ++ .ofList front ++ "]:" ++ .ofList back := by
      rw [← String.toList_inj, text]
      simp
    exact e ▸ .bracketed _ read (by simpa using closed)
  case neg =>
    obtain ⟨before, _, text⟩ := (parts?_bare bare).mp parted
    have e : address = .ofList front ++ ":" ++ .ofList back := by
      rw [← String.toList_inj, text]
      simp
    have bare : front.head? ≠ some '[' := head?_append_colon.mp (text ▸ bare)
    exact e ▸ .plain _ read (by simpa using before) (by simpa using bare)

theorem written_iff : Written host port address ↔ split? address = some (host, port) :=
  ⟨split?_of_written, written_of_split?⟩

theorem hostOf_iff : HostOf address host ↔ Address.host address = host := by
  simp only [HostOf, written_iff, Address.host]
  cases h : split? address with
  | none => simp [eq_comm]
  | some parts =>
    obtain ⟨a, n⟩ := parts
    simp

end GossipCluster.Address
