import GossipCluster.Proofs.Text.Decimal
import GossipCluster.Proofs.Wire.RoundTrip

namespace GossipCluster

-- The causes for which a caller is refused; the others are matters of the node that refuses.
def Error.isCallerFacing : Error → Bool
  | .clusterDisabled | .nameMismatch .. | .statusMismatch .. | .joinAuthFailed _ | .joinRateLimited _
  | .joinNotAllowed _ | .notInQuorum .. | .protocolMismatch .. | .adminAuthFailed _ => true
  | .versionVector _ | .codec .. | .configuration .. | .timeout .. | .transport .. | .actorNotFound _
  | .unexpectedResponse .. | .internal _ => false

namespace Rejection

variable {r : Rejection} {i : Nat}

theorem count_eq {n : UInt64} (h : r.param i = toString n) : r.count i = n := by
  have read : Text.natural? UInt64.size (r.param i) = some n.toNat := by
    rw [h]
    exact Text.natural?_repr n.toNat_lt
  simp [count, number, read]

theorem version_eq {n : UInt16} (h : r.param i = toString n) : r.version i = n := by
  have read : Text.natural? UInt16.size (r.param i) = some n.toNat := by
    rw [h]
    exact Text.natural?_repr n.toNat_lt
  simp [version, number, read]

-- Texts come back by themselves, numbers by being read.
theorem toError_ofError (e : Error) :
    (ofError e).toError = if e.isCallerFacing then e else .internal e.message := by
  cases e with
  | notInQuorum healthy required =>
    let r := ofError (.notInQuorum healthy required)
    have h₀ : r.count 0 = healthy := count_eq rfl
    have h₁ : r.count 1 = required := count_eq rfl
    calc r.toError = .notInQuorum (r.count 0) (r.count 1) := rfl
      _ = .notInQuorum healthy required := by simp only [h₀, h₁]
  | protocolMismatch version min max =>
    let r := ofError (.protocolMismatch version min max)
    have h₀ : r.version 0 = version := version_eq rfl
    have h₁ : r.version 1 = min := version_eq rfl
    have h₂ : r.version 2 = max := version_eq rfl
    calc r.toError = .protocolMismatch (r.version 0) (r.version 1) (r.version 2) := rfl
      _ = .protocolMismatch version min max := by simp only [h₀, h₁, h₂]
  | _ => rfl

end Rejection

namespace Wire

theorem toExcept_decode_ofError {e : Error} {bytes : List UInt8}
    (h : encode (.ofError e) = .ok bytes) (rest : List UInt8) :
    ∃ m, decode (bytes ++ rest) = .ok m ∧
      (e.isCallerFacing → m.toExcept = .error e) ∧
      (¬e.isCallerFacing → m.toExcept = .error (.internal e.message)) := by
  have read : decode (bytes ++ rest) = .ok (.ofError e) := by
    have : ∀ v ∈ (Message.ofError e).views, v.Built := by simp [Message.ofError, Message.views]
    rw [decode, Reads.message this bytes h rest]
    rfl
  have told : (Message.ofError e).toExcept =
      .error (if e.isCallerFacing then e else .internal e.message) :=
    congrArg Except.error (Rejection.toError_ofError e)
  refine ⟨_, read, fun facing => ?_, fun inner => ?_⟩
  case refine_1 => rw [told, if_pos facing]
  case refine_2 => rw [told, if_neg inner]

-- Numbers come back up to the largest.
theorem toExcept_decode_notInQuorum :
    ∃ bytes m, encode (.ofError (.notInQuorum 18446744073709551615 0)) = .ok bytes ∧
      decode bytes = .ok m ∧ m.toExcept = .error (.notInQuorum 18446744073709551615 0) := by
  let e : Error := .notInQuorum 18446744073709551615 0
  obtain ⟨bytes, hb⟩ : ∃ bytes, encode (.ofError e) = .ok bytes := ⟨_, rfl⟩
  have ⟨m, hd, facing, _⟩ := toExcept_decode_ofError hb []
  exact ⟨bytes, m, hb, by simpa using hd, facing rfl⟩

end Wire

end GossipCluster
