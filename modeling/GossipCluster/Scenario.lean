import GossipCluster.Message.Document
import GossipCluster.World.Cluster

namespace GossipCluster

-- `cursors` tell how far the events at the address of a node have been looked at.
structure Scenario where
  world   : World := {}
  nodes   : Dict Handle := ∅
  cursors : Dict (String × Cursor) := ∅
  actors  : Dict (Endpoint × Pid) := ∅
  asks    : Dict Pid := ∅
  boxes   : List (Endpoint × BoxId) := []

-- A message that was taken out of a mailbox; `replied` tells whether an answer to it was still awaited.
structure Receipt where
  mail    : Mail
  replied : Option Bool

def Receipt.toDocument (r : Receipt) : Document := .table <| [
  ("sender", .optional (.string ·.text) r.mail.sender), ("ask", .bool r.mail.ask.isSome),
  ("message", r.mail.message.toDocument View.summary)] ++
  r.replied.toList.map fun b => ("replied", .bool b)

namespace Scenario

def rest (s : Scenario) : Scenario := { s with world := s.world.rest }

def setNetwork (s : Scenario) (n : Network) : Scenario := { s with world.network := n }

-- The mailbox that was held at an endpoint until now is closed.
def register (s : Scenario) (e : Endpoint) : Except Error Scenario :=
  (s.world.network.register e).map fun (box, n) =>
    let s := s.setNetwork n
    { s with
      world := ((s.boxes.lookup e).map s.world.closeBox).getD s.world
      boxes := (e, box) :: s.boxes.filter (·.1 ≠ e) }

def close (s : Scenario) (e : Endpoint) : Bool × Scenario :=
  match s.boxes.lookup e with
  | some box =>
    (true, { s with boxes := s.boxes.filter (·.1 ≠ e), world := s.world.closeBox box })
  | none => (false, s)

def receive (reply : Option Message) (w : World) (m : Mail) : Receipt × World :=
  match reply, m.ask with
  | some r, some id => (⟨m, w.isAwaited id⟩, w.reply id r)
  | _, ask => (⟨m, reply.map fun _ => false⟩, w.drop ask)

-- Takes out all that is in a mailbox; whoever waits for an answer gets the reply, if there is one.
def drain (s : Scenario) (e : Endpoint) (reply : Option Message) : List Receipt × Scenario :=
  match s.boxes.lookup e with
  | none => ([], s)
  | some box =>
    let start := { s.world with network := s.world.network.setMail box [] }
    let (receipts, w) := (s.world.network.mail box).foldl (fun (receipts, w) m =>
      let (receipt, w) := receive reply w m
      (receipts ++ [receipt], w)) ([], start)
    (receipts, { s with world := w })

def askLater (s : Scenario) (name source : String) (target : Endpoint) (sender : Option Endpoint)
    (m : Message) (timeout : Duration) : Scenario :=
  let (pid, w) := s.world.callLater source target sender m timeout
  { s with world := w, asks := s.asks.put name pid }

def result? (s : Scenario) (name : String) : Option Answer := (s.asks.get? name).bind s.world.result?

-- A node that is not there counts as one that is switched off.
def handle (s : Scenario) (name : String) : Except Error Handle :=
  match s.nodes.get? name with
  | some h => .ok h
  | none => .error .clusterDisabled

def letGo (s : Scenario) (name : String) : Scenario := { s with
  world := ((s.nodes.get? name).map (·.release s.world)).getD s.world
  nodes := s.nodes.erase name
  cursors := s.cursors.erase name }

def adopt (s : Scenario) (name : String) (h : Handle) : Scenario := { s with
  nodes := s.nodes.put name h
  cursors := s.cursors.put name (h.address, (s.world.bus h.address).subscribe) }

-- A node takes the place of an earlier one of its name, once it has been started.
def start (s : Scenario) (name : String) (l : Launch) : Launched × Scenario :=
  let (launched, w) := s.world.launch l
  let s := { s with world := w }
  (launched, match launched with
    | .running h => (s.letGo name).adopt name h
    | .disabled => s.letGo name
    | .refused _ | .broken => s)

def withNode {α : Type} (s : Scenario) (name : String) (f : Handle → World → α × World) :
    Except Error (α × Scenario) :=
  (s.handle name).map fun h =>
    let (a, w) := f h s.world
    (a, { s with world := w })

def shutdown (s : Scenario) (name : String) : Except Error Scenario :=
  (s.handle name).map fun h =>
    let (h, w) := h.shutdown s.world
    { s with world := w, nodes := s.nodes.put name h }

def proxy (s : Scenario) (name singleton : String) : Except Error (Endpoint × Scenario) := do
  let (e, h, w) ← (← s.handle name).proxy s.world singleton
  return (e, { s with world := w, nodes := s.nodes.put name h })

-- The events since the last look.
def events (s : Scenario) (name : String) : Option (List Delivery) × Scenario :=
  match s.cursors.get? name with
  | none => (none, s)
  | some (address, cursor) =>
    let (events, cursor) := (s.world.bus address).read cursor
    (some events, { s with cursors := s.cursors.put name (address, cursor) })

-- An actor takes the place of an earlier one of its name, which is to stop.
def spawn (s : Scenario) (name : String) (e : Endpoint) (role : Role) (timeout retry : Duration) :
    Except Error Scenario :=
  (s.world.spawnActor e.address e.path role timeout retry).map fun (pid, w) => { s with
    world := ((s.actors.get? name).map (w.askToStop ·.2)).getD w
    actors := s.actors.put name (e, pid) }

def running? (s : Scenario) (name : String) : Option (Endpoint × Bool) :=
  (s.actors.get? name).map fun (e, pid) => (e, s.world.isAlive pid)

def stop (s : Scenario) (name : String) : Scenario :=
  match s.actors.get? name with
  | some (_, pid) => { s with world := s.world.stop pid, actors := s.actors.erase name }
  | none => s

end Scenario

end GossipCluster
