import GossipCluster.Node.Basic
import GossipCluster.Proofs.Detection.Verdict

namespace GossipCluster

namespace Config

variable {c : Config} {α : Type}

-- A check that comes before others.
theorem check_bind_eq_ok_iff {check : Except Error Unit} {rest : Unit → Except Error α} {a : α} :
    check >>= rest = .ok a ↔ check = .ok () ∧ rest () = .ok a := by
  cases check <;> simp [bind, Except.bind]

theorem validate_security (valid : c.validate = .ok ()) : c.security.validate = .ok () := by
  simp only [validate, check_bind_eq_ok_iff] at valid
  obtain ⟨_name, _address, _length, _discovery, _failure, _membership, security, _⟩ := valid
  exact security

-- The allowlist of a valid configuration can be read.
theorem exists_allowlist (valid : c.validate = .ok ()) :
    ∃ allowed, AddressAllowlist.parse c.security.allowedAddresses = .ok allowed := by
  have secure := validate_security valid
  rw [Security.validate] at secure
  cases parsed : AddressAllowlist.parse c.security.allowedAddresses with
  | error e => rw [parsed] at secure; exact nomatch secure
  | ok allowed => exact ⟨allowed, rfl⟩

end Config

namespace Detector

variable {d : Detector} {v : View} {selfId selfDc : String} {now : Timestamp} {m : Member} {c : Config.FailureDetection}
  {cross : Duration}

theorem ofConfig?_of_explicit (explicit : c.crossTimeout = some cross) :
    ofConfig? c = some ⟨c.timeout, cross, c.confirmation.getD .zero⟩ := by
  rw [ofConfig?, explicit]
  rfl

theorem verdict?_eq_none (long : Duration.limit ≤ d.lastPatience selfDc m) : d.verdict? selfDc now m = none := by
  have endless : d.downTimeout? selfDc m.datacenter = none := if_neg (not_lt.mpr long)
  rw [verdict?, endless]
  rfl

theorem mapM_eq_none {α β : Type} {f : α → Option β} {l : List α} {a : α} (mem : a ∈ l) (h : f a = none) :
    l.mapM f = none := by
  induction l with
  | nil => exact nomatch mem
  | cons b l ih =>
    rw [List.mapM_cons]
    cases hb : f b with
    | none => rfl
    | some =>
      have later : a ∈ l := (List.mem_cons.mp mem).resolve_left fun e => by simp [← e, h] at hb
      rw [ih later]
      rfl

-- One member whose timeouts do not fit is enough, whoever is silent.
theorem detect?_eq_none_iff : d.detect? v selfId selfDc now = none ↔
    ∃ m ∈ v.members.rows, m.id ≠ selfId ∧ Duration.limit ≤ d.lastPatience selfDc m := by
  constructor
  case mp =>
    intro broken
    have unfit : ¬d.Fits v selfId selfDc := fun fits => by simp [detect?_eq fits] at broken
    simp only [Fits, not_forall, not_lt] at unfit
    obtain ⟨id, m, known, other, long⟩ := unfit
    obtain ⟨hm, rfl⟩ := View.member?_eq_some_iff.mp known
    exact ⟨m, hm, other, long⟩
  case mpr =>
    rintro ⟨m, hm, other, long⟩
    have judged : m ∈ others v selfId := List.mem_filter.mpr ⟨hm, by simpa using other⟩
    have broken := mapM_eq_none (f := fun m => return (m.id, ← d.verdict? selfDc now m)) judged
      (by rw [verdict?_eq_none long]; rfl)
    rw [detect?, ← others, broken]
    rfl

end Detector

namespace Node

variable {c : Config} {d : Detector} {allowed : AddressAllowlist}

theorem create_of_parsed (named : c.node.id ≠ "") (detects : Detector.ofConfig? c.failure = some d)
    (parsed : AddressAllowlist.parse c.security.allowedAddresses = .ok allowed) (now : Timestamp) (instant : Instant) :
    (UInt64.size ≤ peerLimit c ∧ create c now instant = .ok none) ∨
      (peerLimit c < UInt64.size ∧ ∃ n, create c now instant = .ok (some n) ∧
        n.config = c ∧ n.detector = d ∧ n.peers.maxEntries = peerLimit c) := by
  have least : max (peerLimit c) 1 = peerLimit c := by
    rw [peerLimit]
    omega
  rw [create, if_neg named, detects, parsed]
  by_cases large : UInt64.size ≤ peerLimit c
  case pos => exact .inl ⟨large, if_pos large⟩
  case neg => exact .inr ⟨not_le.mp large, _, if_neg large, rfl, rfl, least⟩

theorem create_of_unnamed (unnamed : c.node.id = "") (now : Timestamp) (instant : Instant) :
    create c now instant = .error (.configuration "node.id" "must be set before start") := by
  rw [create, if_pos unnamed]
  rfl

end Node

namespace Config

open Detector

variable {c : Config} {cross : Duration}

-- A single member has either timeout, according to where the observer is.
theorem detect?_ne_none_iff {d : Detector} :
    (∀ v selfId selfDc now, d.detect? v selfId selfDc now ≠ none) ↔
      d.timeout.nanos + d.confirmation.nanos < Duration.limit ∧
      d.crossTimeout.nanos + d.confirmation.nanos < Duration.limit := by
  simp only [ne_eq, detect?_eq_none_iff, not_exists, not_and, not_le]
  constructor
  case mp =>
    intro fits
    let m := Member.starting "a" "" "" 0
    have known : m ∈ ((View.new "" 0 0).add m).members.rows := by decide +kernel
    have other : m.id ≠ "" := by decide
    exact ⟨fits _ "" Member.defaultDatacenter 0 m known other, fits _ "" "" 0 m known other⟩
  case mpr =>
    intro ⟨near, far⟩ v selfId selfDc _ m _ _
    rw [lastPatience, patience, suspectTimeout]
    split
    case isTrue => exact near
    case isFalse => exact far

theorem overflow_iff (valid : c.validate = .ok ()) (explicit : c.failure.crossTimeout = some cross) :
    let confirmation := c.failure.confirmation.getD .zero
    ∃ d, ofConfig? c.failure = some d ∧
      (∀ now instant, Node.create c now instant = .ok none ↔
        c.node.id ≠ "" ∧ 2 ^ 64 ≤ max c.discovery.maxTargets 1 * 8) ∧
      (∀ now instant, c.node.id ≠ "" → max c.discovery.maxTargets 1 * 8 < 2 ^ 64 →
        ∃ n, Node.create c now instant = .ok (some n) ∧ n.config = c ∧ n.detector = d ∧
          n.peers.maxEntries = max c.discovery.maxTargets 1 * 8) ∧
      (∀ v selfId selfDc now, d.detect? v selfId selfDc now = none ↔ ∃ m ∈ v.members.rows, m.id ≠ selfId ∧
        2 ^ 64 * 10 ^ 9 ≤ (if selfDc = m.datacenter then c.failure.timeout else cross).nanos + confirmation.nanos) ∧
      ((∀ v selfId selfDc now, d.detect? v selfId selfDc now ≠ none) ↔
        c.failure.timeout.nanos + confirmation.nanos < 2 ^ 64 * 10 ^ 9 ∧
        cross.nanos + confirmation.nanos < 2 ^ 64 * 10 ^ 9) := by
  intro confirmation
  obtain ⟨allowed, parsed⟩ := exists_allowlist valid
  have detects := ofConfig?_of_explicit explicit
  refine ⟨_, detects, fun now instant => ?_, fun now instant named small => ?_, ?_, detect?_ne_none_iff⟩
  case refine_1 =>
    by_cases named : c.node.id = ""
    case pos => simp [Node.create_of_unnamed named, named]
    case neg =>
      rcases Node.create_of_parsed named detects parsed now instant with ⟨large, broken⟩ | ⟨small, n, created, _⟩
      · exact iff_of_true broken ⟨named, large⟩
      · exact iff_of_false (by simp [created]) fun ⟨_, large⟩ => not_le.mpr small large
  case refine_2 =>
    rcases Node.create_of_parsed named detects parsed now instant with ⟨large, _⟩ | ⟨_, created⟩
    · exact absurd large (not_le.mpr small)
    · exact created
  case refine_3 => exact fun _ _ _ _ => detect?_eq_none_iff

-- The largest fan-out that there is room for, and timeouts that just add up.
theorem overflow_iff_of_largest :
    let c : Config := {
      node := { id := "n" }
      discovery := { maxTargets := 2 ^ 61 - 1 }
      failure := {
        timeout := .ofSeconds (2 ^ 64 - 2), crossTimeout := some (.ofSeconds 1), confirmation := some (.ofSeconds 1) } }
    c.validate = .ok () ∧ c.failure.crossTimeout = some (.ofSeconds 1) ∧
      (∃ n, Node.create c 0 0 = .ok (some n) ∧ n.peers.maxEntries = 2 ^ 64 - 8) ∧
      ∃ d, ofConfig? c.failure = some d ∧ ∀ v selfId selfDc now, d.detect? v selfId selfDc now ≠ none := by
  intro c
  have valid : c.validate = .ok () := by decide +kernel
  obtain ⟨d, detects, _, created, _, safe⟩ := overflow_iff valid rfl
  obtain ⟨n, hn, _, _, room⟩ := created 0 0 (by decide) (by decide)
  exact ⟨valid, rfl, ⟨n, hn, room.trans (by decide)⟩, d, detects, safe.mpr ⟨by decide, by decide⟩⟩

-- Both configurations are valid, and neither serves: the table of one cannot be made, and the other one breaks on the
-- first member that it looks at.
theorem overflow_of_valid :
    let wide : Config := {
      node := { id := "n" }
      discovery := { maxTargets := 2 ^ 61 }
      failure := { crossTimeout := some (.ofSeconds 1) } }
    let long : Config.FailureDetection := {
      timeout := .ofSeconds (2 ^ 64 - 1), crossTimeout := some (.ofSeconds 1), confirmation := some (.ofSeconds 1) }
    let view := (View.new "v" 0 0).add (.starting "a" "c" "a:1" 0)
    wide.validate = .ok () ∧ Node.create wide 0 0 = .ok none ∧
      { wide with discovery.maxTargets := 20, failure := long }.validate = .ok () ∧
      ∃ d, ofConfig? long = some d ∧ d.detect? view "n" Member.defaultDatacenter 0 = none := by
  intro wide long view
  have valid : wide.validate = .ok () := by decide +kernel
  obtain ⟨_, parsed⟩ := exists_allowlist valid
  have broken : Node.create wide 0 0 = .ok none := by
    rcases Node.create_of_parsed (by decide) (ofConfig?_of_explicit rfl) parsed 0 0 with ⟨_, broken⟩ | ⟨small, _⟩
    · exact broken
    · exact absurd small (by decide)
  exact ⟨valid, broken, by decide +kernel, _, ofConfig?_of_explicit rfl, by decide +kernel⟩

end Config

end GossipCluster
