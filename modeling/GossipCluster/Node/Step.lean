import GossipCluster.Node.Admin
import GossipCluster.Node.Detection
import GossipCluster.Node.Gossip
import GossipCluster.Node.Join

namespace GossipCluster

namespace Turn

-- Starts a cluster with this node as its only member.
def bootstrap (t : Turn) : Turn :=
  let before := t.node.view
  (t.setStatus .up).recordChange.enterUp.announce before

-- The status is announced before anything has happened.
def start (t : Turn) : Turn :=
  let t := t.announceStatus
  if t.host.seeds.isBootstrap t.node.address then t.bootstrap else t.beginJoin 0

def tick (t : Turn) : Tick → Turn
  | .gossip => if t.node.isUp then t.gossipRound else t
  | .crossGossip => if t.node.isUp then t.crossRound else t
  | .failureDetection => if t.node.isUp then t.detectFailures else t
  | .joinRetry => t.retryJoin

-- Answers that nobody waits for are passed over.
def receive (t : Turn) (e : Envelope) : Turn :=
  match e.message with
  | .joinRequest joiner token => t.receiveJoin e joiner token
  | .joinResponse view => t.receiveResponse view
  | .gossip view => t.receiveGossip e view
  | .viewRequest => t.respond e t.node.viewResponse
  | .leaveRequest => t.leave.respond e .leaveAck
  | .forceDown id token => t.whenAllowed e (checkForceDown t.node id token) (·.forceDown id)
  | .triggerBroadcast token =>
    t.whenAllowed e (checkAdmin t.node "trigger_view_broadcast" token) (·.triggerBroadcast)
  | .updateState state => t.whenAllowed e (checkUpdate t.node e.sender) (·.updateState state)
  | .viewResponse .. | .leaveAck | .adminAck | .rejected _ | .user _ => t

def run (t : Turn) : Input → Turn
  | .tick tick => t.tick tick
  | .joinOutcome attempt result => t.receiveOutcome attempt result
  | .recovered views => t.receiveRecovered views
  | .envelope e => t.receive e

end Turn

namespace Node

def start (n : Node) (host : Host) : Node × List Effect :=
  let t := Turn.start ⟨host, n, []⟩
  (t.node, t.effects)

def step (n : Node) (host : Host) (i : Input) : Node × List Effect :=
  let t := Turn.run ⟨host, n, []⟩ i
  (t.node, t.effects)

-- What a node leaves behind when it is shut down.
def stop (n : Node) : Node := { n with timers := .none }

end Node

end GossipCluster
