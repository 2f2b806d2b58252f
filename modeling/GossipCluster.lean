import GossipCluster.Address.Allowlist
import GossipCluster.Address.Ip
import GossipCluster.Address.Socket
import GossipCluster.Address.Zoned
import GossipCluster.Backoff
import GossipCluster.CommandLine.Arguments
import GossipCluster.CommandLine.Outcome
import GossipCluster.CommandLine.Request
import GossipCluster.Config.Basic
import GossipCluster.Config.Document
import GossipCluster.Config.Environment
import GossipCluster.Config.Redaction
import GossipCluster.Config.Validation
import GossipCluster.Counter
import GossipCluster.Detection
import GossipCluster.Digest.Hmac
import GossipCluster.Digest.Sha256
import GossipCluster.Document.Basic
import GossipCluster.Document.Json
import GossipCluster.Document.Read
import GossipCluster.Duration.Basic
import GossipCluster.Duration.Human
import GossipCluster.Duration.Text
import GossipCluster.Endpoint
import GossipCluster.Error
import GossipCluster.Event.Basic
import GossipCluster.Event.Bus
import GossipCluster.Event.Document
import GossipCluster.Event.Publisher
import GossipCluster.Gossip.PeerVersions
import GossipCluster.Gossip.Selection
import GossipCluster.Main
import GossipCluster.Member.Basic
import GossipCluster.Member.Document
import GossipCluster.Member.Status
import GossipCluster.Message.Basic
import GossipCluster.Message.Document
import GossipCluster.Message.Rejection
import GossipCluster.Metrics
import GossipCluster.Network
import GossipCluster.Node.Admin
import GossipCluster.Node.Attempt
import GossipCluster.Node.Basic
import GossipCluster.Node.Detection
import GossipCluster.Node.Gossip
import GossipCluster.Node.Join
import GossipCluster.Node.Standing
import GossipCluster.Node.Step
import GossipCluster.Node.Turn
import GossipCluster.NodeId
import GossipCluster.Number.Binary64
import GossipCluster.Number.Shortest
import GossipCluster.Proofs.Address.Allowlist
import GossipCluster.Proofs.Address.HostPort
import GossipCluster.Proofs.Config.Overflow
import GossipCluster.Proofs.Detection.Verdict
import GossipCluster.Proofs.Duration.Seconds
import GossipCluster.Proofs.Ensemble.Basic
import GossipCluster.Proofs.Ensemble.Cascade
import GossipCluster.Proofs.Ensemble.Ownership
import GossipCluster.Proofs.Ensemble.Replay
import GossipCluster.Proofs.Ensemble.Return
import GossipCluster.Proofs.Event.Announcement
import GossipCluster.Proofs.Event.Backlog
import GossipCluster.Proofs.Event.Difference
import GossipCluster.Proofs.Event.Replica
import GossipCluster.Proofs.Gossip.Fairness
import GossipCluster.Proofs.Gossip.Memory
import GossipCluster.Proofs.Gossip.Selection
import GossipCluster.Proofs.Member.Incarnation
import GossipCluster.Proofs.Member.Succession
import GossipCluster.Proofs.Message.Contents
import GossipCluster.Proofs.Metrics.Totals
import GossipCluster.Proofs.Neighborhood.Apart
import GossipCluster.Proofs.Neighborhood.Basic
import GossipCluster.Proofs.Node.Admission
import GossipCluster.Proofs.Node.Counting
import GossipCluster.Proofs.Node.Custody
import GossipCluster.Proofs.Node.Deed
import GossipCluster.Proofs.Node.Departure
import GossipCluster.Proofs.Node.Entry
import GossipCluster.Proofs.Node.Halt
import GossipCluster.Proofs.Node.Joining
import GossipCluster.Proofs.Node.Life
import GossipCluster.Proofs.Node.Lodgings
import GossipCluster.Proofs.Node.Recognition
import GossipCluster.Proofs.Node.Refusal
import GossipCluster.Proofs.Node.Relay
import GossipCluster.Proofs.Node.Residence
import GossipCluster.Proofs.Node.Seclusion
import GossipCluster.Proofs.Node.SelfImage
import GossipCluster.Proofs.Node.Silence
import GossipCluster.Proofs.Node.Speech
import GossipCluster.Proofs.Node.Status
import GossipCluster.Proofs.Node.Tenure
import GossipCluster.Proofs.RateLimit.Grants
import GossipCluster.Proofs.RateLimit.Isolation
import GossipCluster.Proofs.Seeds.JoinOrder
import GossipCluster.Proofs.Singleton.Delivery
import GossipCluster.Proofs.Singleton.Watch
import GossipCluster.Proofs.Table.Eviction
import GossipCluster.Proofs.Table.Firsts
import GossipCluster.Proofs.Table.Lookup
import GossipCluster.Proofs.Text.Decimal
import GossipCluster.Proofs.Text.Ends
import GossipCluster.Proofs.Text.Hex
import GossipCluster.Proofs.Token.Acceptance
import GossipCluster.Proofs.Token.Binding
import GossipCluster.Proofs.VersionVector.Joint
import GossipCluster.Proofs.VersionVector.Order
import GossipCluster.Proofs.VersionVector.Rank
import GossipCluster.Proofs.View.Built
import GossipCluster.Proofs.View.Convergence
import GossipCluster.Proofs.View.Derived
import GossipCluster.Proofs.View.Events
import GossipCluster.Proofs.View.Imprints
import GossipCluster.Proofs.View.Level
import GossipCluster.Proofs.View.Lodgings
import GossipCluster.Proofs.View.Majority
import GossipCluster.Proofs.View.Merge
import GossipCluster.Proofs.View.Quorum
import GossipCluster.Proofs.View.Recovery
import GossipCluster.Proofs.View.Redelivery
import GossipCluster.Proofs.View.Report
import GossipCluster.Proofs.View.Tally
import GossipCluster.Proofs.View.Tidy
import GossipCluster.Proofs.Wire.Acceptance
import GossipCluster.Proofs.Wire.Cost
import GossipCluster.Proofs.Wire.Extension
import GossipCluster.Proofs.Wire.Reads
import GossipCluster.Proofs.Wire.Rejection
import GossipCluster.Proofs.Wire.RoundTrip
import GossipCluster.Proofs.Wire.Truncation
import GossipCluster.Quorum
import GossipCluster.Random
import GossipCluster.RateLimit.Limiter
import GossipCluster.RateLimit.TokenBucket
import GossipCluster.Rehearsal
import GossipCluster.Rehearsal.Document
import GossipCluster.Scenario
import GossipCluster.Schedule
import GossipCluster.Seeds
import GossipCluster.Simulation
import GossipCluster.Singleton.Echo
import GossipCluster.Singleton.Manager
import GossipCluster.Singleton.Proxy
import GossipCluster.Table
import GossipCluster.Text.Blank
import GossipCluster.Text.Decimal
import GossipCluster.Text.Fault
import GossipCluster.Text.Hex
import GossipCluster.Text.Hidden
import GossipCluster.Text.Parser
import GossipCluster.Text.Utf8
import GossipCluster.Timestamp
import GossipCluster.Token
import GossipCluster.Toml.Reader
import GossipCluster.Toml.Scalar
import GossipCluster.Toml.Text
import GossipCluster.Toml.Tree
import GossipCluster.Toml.Writer
import GossipCluster.VersionVector
import GossipCluster.View.Basic
import GossipCluster.View.Document
import GossipCluster.View.Merge
import GossipCluster.Wire.Bytes
import GossipCluster.Wire.Lemmas
import GossipCluster.Wire.Message
import GossipCluster.Wire.Reader
import GossipCluster.Wire.Writer
import GossipCluster.World.Basic
import GossipCluster.World.Cluster
import GossipCluster.World.Run
