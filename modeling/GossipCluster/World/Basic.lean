import GossipCluster.Event.Bus
import GossipCluster.Network
import GossipCluster.Node.Attempt
import GossipCluster.Node.Step
import GossipCluster.Schedule
import GossipCluster.Singleton.Manager

namespace GossipCluster

abbrev Pid := Nat

abbrev Answer := Except Error Message

-- A request that waits for its answer. One that is overdue can still be answered until its waiter runs.
structure Ask where
  id        : AskId
  waiter    : Pid
  source    : String
  target    : Endpoint
  operation : String
  timeout   : Duration
  overdue   : Bool := false

inductive Alarm
  | timeout (ask : AskId)
  | timer (pid : Pid)

inductive Command
  | input (i : Input)
  | shutdown

-- A node, the seeds it knows, and the results that its next searches for seeds will have.
structure NodeProcess where
  node        : Node
  seeds       : Seeds
  resolutions : List (Option (List Seed))
  box         : BoxId
  started     : Bool := false
  commands    : List Command := []

inductive Role
  | proxy (p : Proxy)
  | manager (m : Manager) (children : List (String × Pid))
  | singleton (name : String)

-- An actor begins with a question about its cluster, and runs from when that is settled.
inductive Stage
  | fresh
  | asking
  | running
  | ending
deriving DecidableEq

-- An actor does nothing while others depart, which it has asked to stop one after the other.
structure ActorProcess where
  role      : Role
  endpoint  : Endpoint
  box       : BoxId
  timeout   : Duration
  retry     : Duration := .zero
  stage     : Stage := .fresh
  cursor    : Option Cursor := none
  retries   : Nat := 0
  stopping  : Bool := false
  departing : List Pid := []

structure AttemptProcess where
  node    : Pid
  attempt : JoinAttempt
  timeout : Duration
  started : Bool := false

-- A search asks everyone at once and then waits for all answers.
structure RecoveryProcess where
  node      : Pid
  source    : String
  addresses : List String
  timeout   : Duration
  asked     : Option (List AskId) := none

-- Passes a request of someone else on, and its answer back.
structure RelayProcess where
  ask     : AskId
  source  : String
  target  : Endpoint
  parcel  : Parcel
  timeout : Duration
  started : Bool := false

-- Tells an actor, after some time, to try again.
structure TimerProcess where
  actor   : Pid
  delay   : Duration
  started : Bool := false
  rung    : Bool := false

inductive Process
  | node (p : NodeProcess)
  | actor (a : ActorProcess)
  | attempt (a : AttemptProcess)
  | recovery (r : RecoveryProcess)
  | relay (r : RelayProcess)
  | timer (t : TimerProcess)
  | client

structure Job where
  pid     : Pid
  process : Process
  answers : List (AskId × Answer) := []

-- The mailbox that a process reads.
def Job.box? (t : Job) : Option BoxId :=
  match t.process with
  | .node p => some p.box
  | .actor a => some a.box
  | _ => none

-- Whether a process runs when its mailbox changes. An actor looks into it only from when it runs.
def Job.isReading (t : Job) : Bool :=
  match t.process with
  | .actor a => a.stage = .running
  | _ => true

def Job.isListening (t : Job) (address : String) : Bool :=
  match t.process with
  | .actor a =>
    a.endpoint.address = address && a.cursor.isSome && a.stage = .running && a.departing.isEmpty
  | _ => false

def Job.awaitsEnd (t : Job) (pid : Pid) : Bool :=
  match t.process with
  | .actor a => a.departing.head? = some pid
  | _ => false

-- The processes stand in the order in which they last had something to do.
structure World where
  now      : Timestamp := 0
  time     : Nat := 0
  network  : Network := {}
  asks     : List Ask := []
  alarms   : List (Nat × Alarm) := []
  jobs     : List Job := []
  ready    : List Pid := []
  schedule : ManualSchedule (Pid × Tick) := {}
  buses    : Dict Bus := ∅
  results  : List (Pid × Answer) := []
  fresh    : Nat := 0

abbrev Sim := StateM World

namespace World

def job? (w : World) (pid : Pid) : Option Job := w.jobs.find? (·.pid = pid)

def process? (w : World) (pid : Pid) : Option Process := (w.job? pid).map (·.process)

def isAlive (w : World) (pid : Pid) : Bool := (w.job? pid).isSome

def setJob (w : World) (pid : Pid) (f : Job → Job) : World :=
  { w with jobs := w.jobs.map fun t => if t.pid = pid then f t else t }

def setProcess (w : World) (pid : Pid) (p : Process) : World :=
  w.setJob pid ({ · with process := p })

-- A process that is ready already is not woken again.
def wake (w : World) (pid : Pid) : World :=
  if w.ready.contains pid || !w.isAlive pid then w else { w with ready := w.ready ++ [pid] }

def spawn (w : World) (p : Process) : Pid × World :=
  let job : Job := ⟨w.fresh, p, []⟩
  (job.pid, { w with fresh := w.fresh + 1, jobs := w.jobs ++ [job] }.wake job.pid)

def bus (w : World) (address : String) : Bus := (w.buses.get? address).getD (.new 1024)

def wakeAll (w : World) (jobs : List Job) : World := jobs.foldl (·.wake ·.pid) w

def wakeOwner (w : World) (box : BoxId) : World :=
  w.wakeAll (w.jobs.filter fun t => t.box? = some box && t.isReading)

-- Puts a process behind all others.
def putLast (w : World) (pid : Pid) : World :=
  let (this, others) := w.jobs.partition (·.pid = pid)
  { w with jobs := others ++ this }

def publish (w : World) (address : String) (e : Event) : World :=
  let w := { w with buses := w.buses.put address ((w.bus address).publish e) }
  w.wakeAll (w.jobs.filter (·.isListening address))

def place (w : World) (source : String) (target : Endpoint) (mail : Mail) : Except Error World :=
  (w.network.place source target mail).map fun (box, network) =>
    { w with network := network }.wakeOwner box

def tell (w : World) (source : String) (target : Endpoint) (sender : Option Endpoint)
    (m : Message) : Except Error World := do
  let m ← Network.carry m
  w.place source target ⟨sender, m, none⟩

-- Tells a message to all of some targets that it reaches.
def told (w : World) (source : String) (targets : List Endpoint) (sender : Option Endpoint)
    (m : Message) : World :=
  match Network.carry m with
  | .ok m => targets.foldl (fun w target =>
      (w.place source target ⟨sender, m, none⟩).toOption.getD w) w
  | .error _ => w

def answer (w : World) (a : Ask) (answer : Answer) : World :=
  { w with
    asks := w.asks.filter (·.id ≠ a.id)
    alarms := w.alarms.filter fun | (_, .timeout id) => id ≠ a.id | _ => true }.setJob a.waiter
    fun t => { t with answers := t.answers ++ [(a.id, answer)] }

-- Hands an answer to whoever waits for it; nobody may wait any more.
def settle (w : World) (id : AskId) (answer : Ask → Answer) : World :=
  match w.asks.find? (·.id = id) with
  | none => w
  | some a => (w.answer a (answer a)).wake a.waiter

def isAwaited (w : World) (id : AskId) : Bool := w.asks.any (·.id = id)

-- An answer takes the way back over the network.
def reply (w : World) (id : AskId) (m : Message) : World :=
  w.settle id fun a =>
    if w.network.reachable a.target.address a.source then Network.carry m
    else .error (.transport a.target.text "reply dropped by partition")

def drop (w : World) (id : Option AskId) : World :=
  match id with
  | some id => w.settle id fun a =>
      .error (.transport a.target.text "receiver dropped the request without replying")
  | none => w

def millis (d : Duration) : Nat := (d.nanos + 999999) / 1000000

def timedOut (a : Ask) : Answer := .error (.timeout a.operation a.timeout)

def markOverdue (w : World) (id : AskId) : World :=
  let overdue := w.asks.filter (·.id = id)
  let asks := w.asks.map fun a => if a.id = id then { a with overdue := true } else a
  overdue.foldl (·.wake ·.waiter) { w with asks := asks }

-- A process that runs does not wait any longer for answers that are overdue.
def expire (w : World) (pid : Pid) : World :=
  (w.asks.filter fun a => a.waiter = pid && a.overdue).foldl (fun w a => w.answer a (timedOut a)) w

-- Sends a request; it may fail at once.
def ask (w : World) (waiter : Pid) (source : String) (target : Endpoint) (sender : Option Endpoint)
    (m : Message) (timeout : Duration) : Except Error AskId × World :=
  let id := w.fresh
  match w.network.deliver source target ⟨sender, m, some id⟩ with
  | .error e => (.error e, w)
  | .ok (box, network) =>
    let a : Ask := { id, waiter, source, target, operation := m.name, timeout }
    let w := { w with fresh := id + 1, network := network, asks := w.asks ++ [a] }.wakeOwner box
    let due := w.time + millis timeout
    if millis timeout = 0 then (.ok id, w.settle id timedOut)
    else (.ok id, { w with alarms := w.alarms ++ [(due, .timeout id)] })

-- Takes a mailbox away from its reader, with all that is in it.
def closeBox (w : World) (box : BoxId) : World :=
  (w.network.mail box).foldl (·.drop ·.ask) { w with network := w.network.close box }

def deregister (w : World) (e : Endpoint) : World :=
  let box := w.network.box? e
  let w := { w with network := w.network.deregister e }
  (box.map w.wakeOwner).getD w

def finish (w : World) (pid : Pid) : World :=
  let box := (w.job? pid).bind Job.box?
  let w := { w with jobs := w.jobs.filter (·.pid ≠ pid), ready := w.ready.filter (· ≠ pid) }
  let w := (box.map w.closeBox).getD w
  w.wakeAll (w.jobs.filter (·.awaitsEnd pid))

def askToStop (w : World) (pid : Pid) : World :=
  (w.setJob pid fun j => match j.process with
    | .actor a => { j with process := .actor { a with stopping := true } }
    | _ => j).wake pid

def takeMail? (w : World) (box : BoxId) : Option (Mail × World) :=
  match w.network.mail box with
  | [] => none
  | m :: rest => some (m, { w with network := w.network.setMail box rest })

def takeAnswer? (w : World) (pid : Pid) : Option (Answer × World) :=
  match (w.job? pid).map (·.answers) with
  | some ((_, answer) :: rest) => some (answer, w.setJob pid ({ · with answers := rest }))
  | _ => none

end World

end GossipCluster
