import GossipCluster.Node.Standing
import GossipCluster.NodeId
import GossipCluster.World.Run

namespace GossipCluster

namespace World

-- Asks in the background.
def callLater (w : World) (source : String) (target : Endpoint) (sender : Option Endpoint)
    (m : Message) (timeout : Duration) : Pid × World :=
  let (pid, w) := w.spawn .client
  match w.ask pid source target sender m timeout with
  | (.ok _, w) => (pid, w)
  | (.error e, w) =>
    let answer : Answer := .error e
    (pid, { w with results := w.results ++ [(pid, answer)] }.finish pid)

def result? (w : World) (pid : Pid) : Option Answer := w.results.lookup pid

-- A request that will never be answered, because nothing is left that could end it.
def stuck : Answer := .error (.internal "nothing is left to wait for")

def call (w : World) (source : String) (target : Endpoint) (sender : Option Endpoint) (m : Message)
    (timeout : Duration) : Answer × World :=
  let (pid, w) := w.callLater source target sender m timeout
  let w := await (fun w => (w.result? pid).isSome) patience w.rest
  ((w.result? pid).getD stuck, w)

def awaitEnd (w : World) (pid : Pid) : World := await (! ·.isAlive pid) patience w.rest

def stop (w : World) (pid : Pid) : World := (w.askToStop pid).awaitEnd pid

-- Fires a schedule of a node, if there is one.
def fire (w : World) (key : String) : Bool × World :=
  match w.schedule.fire key with
  | (none, _) => (false, w)
  | (some (pid, tick), schedule) =>
    let w := w.setJob pid fun j => match j.process with
      | .node p =>
        let node := { p.node with timers := p.node.timers.fire tick }
        { j with process := .node { p with node := node } }
      | _ => j
    (true, { w with schedule := schedule }.post pid (.input (.tick tick)))

end World

-- What the owner of a running node holds of it.
structure Handle where
  nodeId  : String
  address : String
  node    : Pid
  timeout : Duration
  retry   : Duration
  manager : Option Pid
  proxies : Dict Pid := ∅
  stopped : Bool := false

-- How a node is to be started: `bound` is the address at which it can be reached.
structure Launch where
  config      : Config
  bound       : String
  singletons  : List String := []
  resolutions : List (Option (List Seed)) := []

-- A node with a timeout or a limit that cannot be represented breaks down at once.
inductive Launched
  | disabled
  | running (h : Handle)
  | refused (e : Error)
  | broken

namespace World

def checkBound (l : Launch) : Except Error Unit :=
  if l.bound = l.config.node.address then .ok ()
  else .error (.configuration "node.address" ("transport is bound to " ++ l.bound ++
    " but the node is configured for " ++ l.config.node.address))

-- A node without singletons needs nobody to look after them.
def launchManager (w : World) (l : Launch) (timeout : Duration) :
    Except Error (Option Pid × World) :=
  if l.singletons.isEmpty then .ok (none, w)
  else
    (w.spawnActor l.bound Singleton.managerPath (.manager (.new l.singletons) []) timeout .zero).map
      fun (pid, w) => (some pid, w)

-- The node goes on running when its singletons cannot.
def launchNode (w : World) (l : Launch) (n : Node) (box : BoxId) : Launched × World :=
  let (pid, w) := w.spawn (.node {
    node := n, seeds := .ofConfig l.config.discovery, resolutions := l.resolutions, box := box })
  match w.launchManager l n.requestTimeout with
  | .error e => (.refused e, w)
  | .ok (manager, w) =>
    (.running ⟨n.self.id, n.address, pid, n.requestTimeout, l.config.discovery.interval, manager, ∅,
      false⟩, w)

def launch (w : World) (l : Launch) : Launched × World :=
  if !l.config.enabled then (.disabled, w)
  else
    let l := { l with config.node := (l.config.node.withId [0, .ofNat w.fresh]).1 }
    match (do l.config.validate; checkBound l; w.network.register (.node l.bound)) with
    | .error e => (.refused e, w)
    | .ok (box, network) =>
      let w := { w with network := network }
      match Node.create l.config w.now 0 with
      | .error e => (.refused e, w.deregister (.node l.bound))
      | .ok none => (.broken, w.closeBox box)
      | .ok (some n) => w.launchNode l n box

end World

namespace Handle

def request (h : Handle) (w : World) (m : Message) : Except Error Message × World :=
  let (answer, w) := w.call h.address (.node h.address) (some (.client h.address)) m h.timeout
  (answer >>= Message.toExcept, w)

def unexpected (operation : String) (m : Message) : Error :=
  .unexpectedResponse operation ("got " ++ m.name)

def standing (h : Handle) (w : World) : Except Error Standing × World :=
  let (answer, w) := h.request w .viewRequest
  (match answer with
    | .ok (.viewResponse view inQuorum leader) => .ok ⟨view, inQuorum, leader⟩
    | .ok other => .error (unexpected "get_view" other)
    | .error e => .error e, w)

def leave (h : Handle) (w : World) : Except Error Unit × World :=
  let (answer, w) := h.request w .leaveRequest
  (match answer with
    | .ok .leaveAck => .ok ()
    | .ok other => .error (unexpected "leave" other)
    | .error e => .error e, w)

-- Administrative requests are named in errors as the messages are.
def command (h : Handle) (w : World) (m : Message) : Except Error Unit × World :=
  let (answer, w) := h.request w m
  (match answer with
    | .ok .adminAck => .ok ()
    | .ok other => .error (unexpected m.name other)
    | .error e => .error e, w)

-- The proxy of a singleton; it is there from the first time on that it is asked for.
def proxy (h : Handle) (w : World) (name : String) : Except Error (Endpoint × Handle × World) :=
  let path := Singleton.proxyPath name
  if h.proxies.contains name then .ok (⟨h.address, path⟩, h, w)
  else
    (w.spawnActor h.address path (.proxy { name := name }) h.timeout h.retry).map fun (pid, w) =>
      (⟨h.address, path⟩, { h with proxies := h.proxies.put name pid }, w)

def actors (h : Handle) : List Pid := h.proxies.values ++ h.manager.toList

-- A second shutdown finds nothing left to stop.
def shutdown (h : Handle) (w : World) : Handle × World :=
  let w := h.actors.foldl World.stop w
  let w := if h.stopped then w else (w.post h.node .shutdown).awaitEnd h.node
  ({ h with manager := none, proxies := ∅, stopped := true }, w)

-- What runs for the owner of a node alone does not outlive its handle.
def release (h : Handle) (w : World) : World := h.actors.foldl World.askToStop w

end Handle

end GossipCluster
