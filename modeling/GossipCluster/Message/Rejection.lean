import GossipCluster.Error

namespace GossipCluster

inductive RejectKind
  | clusterDisabled
  | nameMismatch
  | statusMismatch
  | joinAuthFailed
  | joinRateLimited
  | joinNotAllowed
  | notInQuorum
  | protocolMismatch
  | adminAuthFailed
  | other
deriving DecidableEq, Repr, Inhabited

namespace RejectKind

def toByte : RejectKind → UInt8
  | clusterDisabled => 1
  | nameMismatch => 2
  | statusMismatch => 3
  | joinAuthFailed => 4
  | joinRateLimited => 5
  | joinNotAllowed => 6
  | notInQuorum => 7
  | protocolMismatch => 8
  | adminAuthFailed => 9
  | other => 255

-- Kinds that newer nodes may add are read as `other`.
def ofByte (b : UInt8) : RejectKind :=
  ([clusterDisabled, nameMismatch, statusMismatch, joinAuthFailed, joinRateLimited, joinNotAllowed,
    notInQuorum, protocolMismatch, adminAuthFailed].find? (·.toByte == b)).getD other

theorem ofByte_toByte (k : RejectKind) : ofByte k.toByte = k := by cases k <;> rfl

end RejectKind

-- What is needed to rebuild the error of a refused request.
structure Rejection where
  kind    : RejectKind
  params  : List String
  message : String
deriving DecidableEq, Repr, Inhabited

namespace Rejection

def ofError (e : Error) : Rejection :=
  let (kind, params) : RejectKind × List String := match e with
    | .clusterDisabled => (.clusterDisabled, [])
    | .nameMismatch expected actual => (.nameMismatch, [expected, actual])
    | .statusMismatch nodeId expected actual => (.statusMismatch, [nodeId, expected, actual])
    | .joinAuthFailed nodeId => (.joinAuthFailed, [nodeId])
    | .joinRateLimited address => (.joinRateLimited, [address])
    | .joinNotAllowed reason => (.joinNotAllowed, [reason])
    | .notInQuorum healthy required => (.notInQuorum, [toString healthy, toString required])
    | .protocolMismatch version min max =>
      (.protocolMismatch, [toString version, toString min, toString max])
    | .adminAuthFailed operation => (.adminAuthFailed, [operation])
    | _ => (.other, [])
  ⟨kind, params, e.message⟩

def param (r : Rejection) (i : Nat) : String := r.params.getD i ""

-- A number that cannot be read counts as zero.
def number (r : Rejection) (limit : Nat) (i : Nat) : Nat :=
  (Text.natural? limit (r.param i)).getD 0

def count (r : Rejection) (i : Nat) : UInt64 := .ofNat (r.number UInt64.size i)

def version (r : Rejection) (i : Nat) : UInt16 := .ofNat (r.number UInt16.size i)

def toError (r : Rejection) : Error :=
  match r.kind with
  | .clusterDisabled => .clusterDisabled
  | .nameMismatch => .nameMismatch (r.param 0) (r.param 1)
  | .statusMismatch => .statusMismatch (r.param 0) (r.param 1) (r.param 2)
  | .joinAuthFailed => .joinAuthFailed (r.param 0)
  | .joinRateLimited => .joinRateLimited (r.param 0)
  | .joinNotAllowed => .joinNotAllowed (r.param 0)
  | .notInQuorum => .notInQuorum (r.count 0) (r.count 1)
  | .protocolMismatch => .protocolMismatch (r.version 0) (r.version 1) (r.version 2)
  | .adminAuthFailed => .adminAuthFailed (r.param 0)
  | .other => .internal r.message

end Rejection

end GossipCluster
