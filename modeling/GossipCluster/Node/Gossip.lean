import GossipCluster.Node.Turn

namespace GossipCluster.Turn

-- A member that speaks is alive. A suspicion against it is lifted.
def revive (v : View) (address : String) (now : Timestamp) : View × Bool :=
  match v.memberAt? address with
  | none => (v, false)
  | some peer =>
    let v := v.touch peer.id now
    if peer.status = .suspect then (v.setStatus peer.id .up, true) else (v, false)

-- A peer that speaks has seen what it sends.
def hear (t : Turn) (sender : Endpoint) (incoming : View) : Turn × Bool :=
  let (view, revived) := revive t.node.view sender.address t.now
  let peers := t.node.peers.record sender.address incoming.versions t.now
  ({ t with node := { t.node with view := view, peers := peers } }, revived)

-- What comes from nobody is no sign of life.
def attend (t : Turn) (sender : Option Endpoint) (incoming : View) : Turn × Bool :=
  match sender with
  | some sender => t.hear sender incoming
  | none => (t, false)

def absorb (t : Turn) (sender : Option Endpoint) (incoming : View) : Turn :=
  let heard := t.attend sender incoming
  let learned := heard.1.learn incoming
  learned.1.conclude t.node.view learned.2 heard.2

def checkProtocol (n : Node) (incoming : View) : Except Error Unit :=
  let m := n.config.membership
  if incoming.protocolVersion < m.minProtocol ∨ m.maxProtocol < incoming.protocolVersion then
    .error (.protocolMismatch incoming.protocolVersion m.minProtocol m.maxProtocol)
  else .ok ()

-- Only a node that is up takes part in gossip.
def receiveGossip (t : Turn) (e : Envelope) (incoming : View) : Turn :=
  match checkProtocol t.node incoming with
  | .error error => if e.expectsReply then t.emit (.reply (.ofError error)) else t
  | .ok _ => if t.node.isUp then t.absorb e.sender incoming else t

-- Peers that are neither members nor seeds are forgotten.
def retainPeers (t : Turn) : Turn :=
  let known := t.node.view.members.rows.map (·.address) ++ t.host.seeds.addresses
  { t with node := { t.node with peers := t.node.peers.retain known } }

-- Peers that have seen everything already are passed over.
def gossipTargets? (t : Turn) : Option (List String) :=
  let (targets, _) := t.node.selector.select t.node.view t.node.self t.host.seeds.all t.host.words
  targets.map fun targets => (targets.map (·.address)).filter fun a =>
    !t.node.peers.isCurrent a t.node.view.versions t.now

def gossipRound (t : Turn) : Turn :=
  let t := t.heartbeat.retainPeers
  match t.gossipTargets? with
  | some targets => t.sendGossip targets
  | none => t.emit .halt

def crossRound (t : Turn) : Turn :=
  let t := t.heartbeat
  let (targets, _) := t.node.selector.selectRemote t.node.view t.node.self t.host.words
  t.sendGossip (targets.map (·.address))

end GossipCluster.Turn
