import GossipCluster.Member.Document
import GossipCluster.View.Basic

namespace GossipCluster.View

def toDocument (v : View) : Document := .table [
  ("view_id", .string v.id), ("epoch", .integer v.epoch.toNat),
  ("timestamp", .integer v.timestamp.toInt),
  ("members", .table (v.members.rows.map fun m => (m.id, m.toDocument))),
  ("healthy_count", .integer v.healthy), ("unhealthy_count", .integer v.unhealthy),
  ("quorum_size", .integer v.quorum),
  ("version_vector", .table [
    ("counters", .table (v.versions.entries.map fun (id, n) => (id, .integer n)))]),
  ("protocol_version", .integer v.protocolVersion.toNat),
  ("max_vv_entries", .integer v.vectorBound)]

def summaryOf (m : Member) : Document := .list [
  .string m.id, .string m.address, .string m.status.name, .integer m.generation.toNat,
  .integer m.clock.toNat, .integer m.timestamp.toInt, .integer m.lastSeen.toInt, .texts m.labels,
  .texts m.state]

-- A view in short, without names for what its members hold.
def summary (v : View) : Document := .table [
  ("epoch", .integer v.epoch.toNat), ("timestamp", .integer v.timestamp.toInt),
  ("members", .list (v.members.rows.map summaryOf)),
  ("vv", .list (v.versions.entries.map fun (id, n) => .list [.string id, .integer n])),
  ("counts", .list [.integer v.healthy, .integer v.unhealthy, .integer v.quorum]),
  ("protocol_version", .integer v.protocolVersion.toNat)]

open Document (Read)

def readVersions : Read VersionVector := fun format d => do
  let counters : Dict Nat ←
    Read.record 1 (fun f => f.need 0 "counters" (.dict .size)) format d
  Text.Fault.need (VersionVector.ofEntries counters.rows).toOption

def membersOf : Read Roster := fun format d => do
  let members : Dict Member ← Read.dict Member.ofDocument format d
  return .ofList members.values

-- The counts are taken as they stand.
def ofDocument : Read View := .record 10 fun f =>
  View.mk
    <$> f.need 0 "view_id" .string
    <*> f.need 1 "epoch" .word
    <*> f.need 2 "timestamp" .time
    <*> f.need 3 "members" membersOf
    <*> f.need 4 "healthy_count" .size
    <*> f.need 5 "unhealthy_count" .size
    <*> f.need 6 "quorum_size" .size
    <*> f.need 7 "version_vector" readVersions
    <*> f.need 8 "protocol_version" .version
    <*> f.need 9 "max_vv_entries" .size

end GossipCluster.View
