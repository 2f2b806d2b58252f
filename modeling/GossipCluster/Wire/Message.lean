import GossipCluster.Message.Basic
import GossipCluster.Wire.Reader

namespace GossipCluster.Wire

namespace Write

def member (m : Member) : Written :=
  if m.address.utf8ByteSize > Member.maxAddressBytes then .error addressTooLong
  else body "node state" [
    text m.id, text m.cluster, text m.address, counter m.generation, counter m.clock,
    time m.timestamp, byte m.status.toByte, time m.lastSeen, map m.labels, map m.state]

-- The counts are written for observers; readers count anew.
def view (v : View) : Written :=
  body "cluster view" [
    word 2 v.protocolVersion.toNat, text v.id, counter v.epoch, time v.timestamp,
    word 4 (min v.vectorBound maxLength),
    listOf "members" maxMapEntries member v.members.rows,
    listOf "version vector" VersionVector.maxEntries (fun e => all [text e.1, word 8 e.2])
      v.versions.entries,
    word 4 v.healthy, word 4 v.unhealthy, word 4 v.quorum]

def rejection (r : Rejection) : Written :=
  all [byte r.kind.toByte, listOf "rejection params" maxMapEntries text r.params, text r.message]

def optional (write : α → Written) : Option α → Written
  | some a => all [byte 1, write a]
  | none => byte 0

end Write

def encode : Message → Written
  | .joinRequest m token => Write.all [Write.byte 1, Write.member m, Write.text token]
  | .joinResponse v => Write.all [Write.byte 2, Write.view v]
  | .gossip v => Write.all [Write.byte 3, Write.view v]
  | .viewRequest => Write.byte 4
  | .viewResponse v inQuorum leader => Write.all [
      Write.byte 5, Write.byte 1, Write.view v, Write.byte (if inQuorum then 1 else 0),
      Write.optional Write.text leader]
  | .leaveRequest => Write.byte 6
  | .leaveAck => Write.byte 7
  | .forceDown nodeId token => Write.all [Write.byte 8, Write.text nodeId, Write.text token]
  | .triggerBroadcast token => Write.all [Write.byte 9, Write.text token]
  | .adminAck => Write.byte 10
  | .updateState state => Write.all [Write.byte 11, Write.map state]
  | .rejected r => Write.all [Write.byte 12, Write.rejection r]
  | .user payload => Write.all [Write.byte 13, Write.blob "user payload" maxLength payload]

def encodeView (v : View) : Written := Write.view v

namespace Read

def status : Reader Status := do
  let b ← byte "status"
  match Status.ofByte? b with
  | some s => return s
  | none => .fail (.codec "member status" ("unknown status byte " ++ toString b))

def address : Reader String := do
  let address ← text "address"
  if address.utf8ByteSize > Member.maxAddressBytes then .fail addressTooLong else return address

def member : Reader Member := body "node state" do
  return {
    id         := ← text "node id"
    cluster    := ← text "cluster name"
    address    := ← address
    generation := ← counter "generation"
    clock      := ← counter "logical clock"
    timestamp  := ← time "timestamp"
    status     := ← status
    lastSeen   := ← time "last seen"
    labels     := ← map "labels"
    state      := ← map "custom state" }

def versions : Reader VersionVector := do
  let entries ← listOf "version vector" VersionVector.maxEntries do
    return (← text "version vector id", ← word "version vector counter" 8)
  .ofExcept <| (VersionVector.ofEntries entries).mapError (.versionVector ·.message)

def view : Reader View := body "cluster view" do
  let protocolVersion ← word "protocol version" 2
  let id ← text "view id"
  let epoch ← counter "epoch"
  let timestamp ← time "timestamp"
  let bound ← word "max vv entries" 4
  let members ← listOf "members" maxMapEntries member
  let versions ← versions
  return .ofParts id epoch timestamp members versions (.ofNat protocolVersion) bound

def viewResponse : Reader Message := do
  if (← byte "view presence") ≠ 1 then .fail (.codec "get view response" "missing view")
  else
    let v ← view
    let inQuorum ← byte "in quorum"
    let leader ← byte "leader presence"
    let leader ← if leader = 0 then pure none else some <$> text "leader address"
    return .viewResponse v (inQuorum ≠ 0) leader

def rejection : Reader Rejection := do
  let kind ← byte "reject kind"
  let params ← listOf "rejection params" maxMapEntries (text "rejection param")
  return ⟨.ofByte kind, params, ← text "rejection message"⟩

def message : Reader Message := do
  match (← byte "message kind") with
  | 1 => return .joinRequest (← member) (← text "auth token")
  | 2 => return .joinResponse (← view)
  | 3 => return .gossip (← view)
  | 4 => return .viewRequest
  | 5 => viewResponse
  | 6 => return .leaveRequest
  | 7 => return .leaveAck
  | 8 => return .forceDown (← text "node id") (← text "admin token")
  | 9 => return .triggerBroadcast (← text "admin token")
  | 10 => return .adminAck
  | 11 => return .updateState (← map "custom state")
  | 12 => return .rejected (← rejection)
  | 13 => return .user (← blob "user payload" maxLength)
  | kind => .fail (.codec "message kind" ("unknown discriminator " ++ toString kind))

end Read

-- Bytes after the message are left alone.
def decode (bytes : List UInt8) : Except Error Message := (Read.message bytes).map Prod.fst

def decodeView (bytes : List UInt8) : Except Error View := (Read.view bytes).map Prod.fst

end GossipCluster.Wire
