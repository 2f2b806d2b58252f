import GossipCluster.Node.Basic

namespace GossipCluster

-- A turn under way: the node as it is by now, and the effects so far.
structure Turn where
  host    : Host
  node    : Node
  effects : List Effect := []

namespace Turn

def now (t : Turn) : Timestamp := t.host.now

def emit (t : Turn) (e : Effect) : Turn := { t with effects := t.effects ++ [e] }

def publish (t : Turn) (e : Option Event) : Turn := (e.map (t.emit <| .publish ·)).getD t

def send (t : Turn) (targets : List Endpoint) (m : Message) : Turn :=
  if targets.isEmpty then t else t.emit (.send targets m)

-- A count of nothing is not reported.
def measure (t : Turn) (s : Series) (count : Nat) : Turn :=
  if count = 0 then t else t.emit (.measure ⟨s, count⟩)

def setView (t : Turn) (v : View) : Turn := { t with node := { t.node with view := v } }

def setPhase (t : Turn) (p : Phase) : Turn := { t with node := { t.node with phase := p } }

def setTimers (t : Turn) (timers : Timers) : Turn :=
  { t with node := { t.node with timers := timers } }

def become (t : Turn) (self : Member) : Turn := { t with node := { t.node with self := self } }

-- The node as it knows itself, with a sign of life, and that in its view.
def setSelf (t : Turn) (self : Member) : Turn :=
  let self := { self with lastSeen := t.now }
  (t.become self).setView (t.node.view.add self)

def setStatus (t : Turn) (s : Status) : Turn :=
  t.setSelf { t.node.self.advance t.now with status := s }

-- A change that cannot be counted any more stays without an event of its own.
def recordChange (t : Turn) : Turn :=
  match t.node.view.recordChange t.node.self.id t.now with
  | .ok v => t.setView v
  | .error _ => t

def heartbeat (t : Turn) : Turn :=
  { t with node := { t.node with
    self := { t.node.self with lastSeen := t.now }
    view := t.node.view.touch t.node.self.id t.now } }

-- Puts the node back into its view, past any incarnation of it that others know.
def reassert (t : Turn) : Turn :=
  match t.node.view.member? t.node.self.id with
  | none => t.setSelf t.node.self
  | some seen =>
    if seen.Newer t.node.self then
      match t.node.self.supersede seen t.now with
      | .ok self => (t.setSelf self).recordChange
      | .error _ => t
    else t

-- The members of another view that are about to leave.
def departing (n : Node) (incoming : View) : List Member :=
  incoming.members.rows.filter fun m => m.isDeparting && m.id != n.self.id

-- The departing members that are known, and not by a newer incarnation.
def departed (n : Node) (incoming : View) : List Member :=
  (departing n incoming).filter fun m => (n.view.member? m.id).any (¬ ·.Newer m)

def without (v : View) (members : List Member) : View := members.foldl (·.remove ·.id) v

-- Members that leave are no longer learned from others, and forgotten.
def forget (t : Turn) (incoming : View) : Turn :=
  let gone := departed t.node incoming
  (t.setView (without t.node.view gone)).measure .membersRemoved gone.length

-- What is learned from another view, and whether that is anything.
def learn (t : Turn) (incoming : View) : Turn × Bool :=
  let gone := !(departed t.node incoming).isEmpty
  let remaining := without incoming (departing t.node incoming)
  let t := t.forget incoming
  let (view, changed) := t.node.view.merge remaining t.node.mergeOptions t.now
  (t.setView view, changed || gone)

def announceQuorum (t : Turn) : Turn × Bool :=
  let (event, publisher) := t.node.publisher.announceQuorum t.node.inQuorum
  (({ t with node := { t.node with publisher := publisher } }).publish event, event.isSome)

def announceLeader (t : Turn) (quorumChanged : Bool) : Turn :=
  let (event, publisher) := t.node.publisher.announceLeader t.node.view.leader? t.node.address
    t.node.inQuorum quorumChanged
  ({ t with node := { t.node with publisher := publisher } }).publish event

def announceDatacenters (t : Turn) : Turn :=
  let (events, publisher) := t.node.publisher.announceDatacenters t.node.view.datacenterHealth
  events.foldl (·.publish <| some ·) { t with node := { t.node with publisher := publisher } }

def report (t : Turn) : Turn :=
  let (changes, meter) := t.node.meter.record t.node.view t.node.inQuorum
  changes.foldl (·.emit <| .measure ·) { t with node := { t.node with meter := meter } }

def announceStatus (t : Turn) : Turn :=
  let (t, quorumChanged) := t.announceQuorum
  (t.announceLeader quorumChanged).announceDatacenters.report

-- Says all that has changed since the view was as `before`.
def announce (t : Turn) (before : View) : Turn :=
  let t := t.publish (Event.membersChange? before t.node.view)
  let t := if before = t.node.view then t else t.publish (some (.viewChanged t.node.view))
  t.announceStatus

-- Adds an address to those that gossip goes to, if the limit allows it.
def grant (t : Turn × List Endpoint) (address : String) : Turn × List Endpoint :=
  let (t, targets) := t
  let (allowed, limiter) := t.node.gossipLimiter.allow t.host.instant
  let t := { t with node := { t.node with gossipLimiter := limiter } }
  if allowed then (t, targets ++ [.node address]) else (t.measure .gossipLimited 1, targets)

-- To an address that has been reached nothing more is sent until the view has grown.
def sendGossip (t : Turn) (addresses : List String) : Turn :=
  let (t, targets) := addresses.foldl grant (t, [])
  let view := t.node.view
  let reached := t.host.delivers (.gossip view) targets
  let peers := reached.foldl (fun peers e => peers.record e.address view.versions t.now) t.node.peers
  let t := { t with node := { t.node with peers := peers } }
  (t.send targets (.gossip view)).measure .gossipSent reached.length

-- The members that hear of a change at once.
def audience (n : Node) (skip : Option String) : List Member :=
  n.view.members.rows.filter fun m =>
    m.id != n.self.id && some m.id != skip && !(m.status matches .down | .removed)

def broadcast (t : Turn) (skip : Option String := none) : Turn :=
  t.sendGossip ((audience t.node skip).map (·.address))

-- Answers who waits, or else tells the sender.
def respond (t : Turn) (e : Envelope) (m : Message) : Turn :=
  match e.expectsReply, e.sender with
  | true, _ => t.emit (.reply m)
  | false, some sender => t.send [sender] m
  | false, none => t

-- What a node does about what it has learned since its view was as `before`.
def conclude (t : Turn) (before : View) (changed revived : Bool) : Turn :=
  let t := t.reassert
  let t := if changed then t.broadcast else t
  if changed || revived then t.announce before else t

def schedulePeriodic (t : Turn) : Turn :=
  let d := t.node.config.discovery
  t.setTimers {
    gossip           := some d.interval
    crossGossip      := if d.maxCrossTargets = 0 then none else some d.crossInterval
    failureDetection := some t.node.config.failure.interval }

def enterUp (t : Turn) : Turn := (t.setPhase .up).schedulePeriodic

end Turn

end GossipCluster
