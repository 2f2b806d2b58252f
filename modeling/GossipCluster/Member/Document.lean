import GossipCluster.Document.Read
import GossipCluster.Member.Basic

namespace GossipCluster

def Document.texts (d : Dict String) : Document := .table (d.rows.map fun (k, v) => (k, .string v))

namespace Member

def toDocument (m : Member) : Document := .table [
  ("id", .string m.id), ("cluster_name", .string m.cluster), ("address", .string m.address),
  ("generation", .integer m.generation.toNat), ("logical_clock", .integer m.clock.toNat),
  ("timestamp", .integer m.timestamp.toInt), ("status", .string m.status.name),
  ("last_seen", .integer m.lastSeen.toInt), ("labels", .texts m.labels),
  ("custom_state", .texts m.state)]

open Document (Read)

-- All fields are needed.
def ofDocument : Read Member := .record 10 fun f =>
  Member.mk
    <$> f.need 0 "id" .string
    <*> f.need 1 "cluster_name" .string
    <*> f.need 2 "address" .string
    <*> f.need 3 "generation" .word
    <*> f.need 4 "logical_clock" .word
    <*> f.need 5 "timestamp" .time
    <*> f.need 6 "status" (.choice Status.ofName?)
    <*> f.need 7 "last_seen" .time
    <*> f.need 8 "labels" (.dict .string)
    <*> f.need 9 "custom_state" (.dict .string)

end Member

end GossipCluster
