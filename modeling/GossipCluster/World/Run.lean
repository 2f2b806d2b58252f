import GossipCluster.Singleton.Echo
import GossipCluster.World.Basic

namespace GossipCluster.World

def post (w : World) (pid : Pid) (c : Command) : World :=
  (w.setJob pid fun j => match j.process with
    | .node p => { j with process := .node { p with commands := p.commands ++ [c] } }
    | _ => j).wake pid

def host (w : World) (p : NodeProcess) : Host where
  now      := w.now
  instant  := 0
  seeds    := p.seeds
  delivers := w.network.delivers p.node.address

def NodeProcess.refreshSeeds (p : NodeProcess) : NodeProcess :=
  { p with seeds := p.seeds.refresh (p.resolutions.headD none), resolutions := p.resolutions.tail }

-- The keys that a node clears when it enters a phase, also those of a node that broke down before
-- it at the same address.
def clears : Phase → List Tick
  | .joining .. => []
  | .up => [.joinRetry]
  | .exited => Tick.all

-- A node schedules and clears keys only as it enters a phase.
def reschedule (w : World) (pid : Pid) (before after : Node) : World :=
  let set (s : ManualSchedule (Pid × Tick)) (tick : Tick) : ManualSchedule (Pid × Tick) :=
    let key := tick.key after.address
    match after.timers.get tick with
    | some d => if tick.repeats then s.every key d (pid, tick) else s.once key d (pid, tick)
    | none => if (clears after.phase).contains tick then s.cancel key else s
  if before.phase = after.phase then w
  else { w with schedule := Tick.all.foldl set w.schedule }

def perform (pid : Pid) (n : Node) (asked : Option AskId) (w : World) : Effect → World
  | .publish e => w.publish n.address e
  | .send targets m => w.told n.address targets (some n.endpoint) m
  | .reply m => (asked.map (w.reply · m)).getD w
  | .measure _ => w
  | .join number self token =>
    (w.spawn (.attempt ⟨pid, .begin number self token [], n.requestTimeout, false⟩)).2
  | .probe addresses => (w.spawn (.recovery ⟨pid, n.address, addresses, n.requestTimeout, none⟩)).2
  | .halt => w.finish pid

-- A request that is not answered by the end of the turn never will be.
def takeTurn (w : World) (pid : Pid) (p : NodeProcess) (asked : Option AskId)
    (turn : Node × List Effect) : World :=
  let w := (w.setProcess pid (.node { p with node := turn.1 })).reschedule pid p.node turn.1
  (turn.2.foldl (perform pid turn.1 asked) w).drop asked

def stopNode (w : World) (pid : Pid) (p : NodeProcess) : World :=
  let keys := Tick.all.map (·.key p.node.address)
  let w := { w with schedule := keys.foldl ManualSchedule.cancel w.schedule }
  (w.deregister p.node.endpoint).finish pid

def stepNode (w : World) (pid : Pid) (p : NodeProcess) : Option World :=
  if !p.started then
    let p := { NodeProcess.refreshSeeds p with started := true }
    some (w.takeTurn pid p none (p.node.start (w.host p)))
  else match p.commands with
    | .shutdown :: _ => some (w.stopNode pid p)
    | .input i :: rest =>
      some (w.takeTurn pid { p with commands := rest } none (p.node.step (w.host p) i))
    | [] => match w.takeMail? p.box with
      | some (m, w) =>
        let e : Envelope := ⟨m.sender, m.message, m.ask.isSome⟩
        some (w.takeTurn pid p m.ask (p.node.step (w.host p) (.envelope e)))
      | none => if w.network.isConnected p.box then none else some (w.stopNode pid p)

def conclude (w : World) (pid node : Pid) (i : Input) : World :=
  (w.post node (.input i)).finish pid

-- Asks one seed after the other, as long as requests fail at once.
def pursue (pid : Pid) (p : AttemptProcess) : List String → Error → World → World
  | [], failure, w => w.conclude pid p.node (.joinOutcome p.attempt.number (.error failure))
  | seed :: seeds, _, w =>
    let self := p.attempt.self.address
    match w.ask pid self (.node seed) (some (.node self)) p.attempt.request p.timeout with
    | (.ok _, w) =>
      let attempt := { p.attempt with seeds := seed :: seeds }
      w.setProcess pid (.attempt { p with attempt := attempt, started := true })
    | (.error e, w) => pursue pid p seeds e w

-- The seeds are looked up anew for each attempt.
def beginAttempt (w : World) (pid : Pid) (p : AttemptProcess) : World :=
  match w.process? p.node with
  | some (.node n) =>
    let n := NodeProcess.refreshSeeds n
    let seeds := (n.seeds.forJoin p.attempt.self.datacenter []).1
    let attempt := JoinAttempt.begin p.attempt.number p.attempt.self p.attempt.token seeds
    pursue pid { p with attempt := attempt } attempt.seeds attempt.failure
      (w.setProcess p.node (.node n))
  | _ => w.finish pid

def stepAttempt (w : World) (pid : Pid) (p : AttemptProcess) : Option World :=
  if !p.started then some (w.beginAttempt pid p)
  else match w.takeAnswer? pid, p.attempt.seeds with
    | some (answer, w), seed :: seeds =>
      match JoinAttempt.outcome seed answer with
      | .ok view => some (w.conclude pid p.node (.joinOutcome p.attempt.number (.ok view)))
      | .error e => some (pursue pid p seeds e w)
    | _, _ => none

def askAll (pid : Pid) (r : RecoveryProcess) (w : World) : World × List AskId :=
  r.addresses.foldl (fun (w, ids) address =>
    match w.ask pid r.source (.node address) (some (.node r.source)) .viewRequest r.timeout with
    | (.ok id, w) => (w, ids ++ [id])
    | (.error _, w) => (w, ids)) (w, [])

-- The views come in the order of the requests.
def stepRecovery (w : World) (j : Job) (r : RecoveryProcess) : Option World :=
  match r.asked with
  | none =>
    let (w, ids) := askAll j.pid r w
    some (w.setProcess j.pid (.recovery { r with asked := some ids }))
  | some ids =>
    if j.answers.length < ids.length then none
    else
      let views := ids.filterMap fun id => (j.answers.lookup id).bind Message.view?
      some (w.conclude j.pid r.node (.recovered views))

def passBack (w : World) (pid : Pid) (r : RelayProcess) (answer : Answer) : World :=
  let m := match answer with
    | .ok m => m
    | .error e => .ofError e
  (w.reply r.ask m).finish pid

def stepRelay (w : World) (pid : Pid) (r : RelayProcess) : Option World :=
  if !r.started then
    match w.ask pid r.source r.target r.parcel.sender r.parcel.message r.timeout with
    | (.ok _, w) => some (w.setProcess pid (.relay { r with started := true }))
    | (.error e, w) => some (w.passBack pid r (.error e))
  else (w.takeAnswer? pid).map fun (answer, w) => w.passBack pid r answer

def stepClient (w : World) (pid : Pid) : Option World :=
  (w.takeAnswer? pid).map fun (answer, w) =>
    { w with results := w.results ++ [(pid, answer)] }.finish pid

def spawnActor (w : World) (address path : String) (role : Role) (timeout retry : Duration) :
    Except Error (Pid × World) := do
  let endpoint : Endpoint := ⟨address, path⟩
  let (box, network) ← w.network.register endpoint
  return { w with network := network }.spawn (.actor { role, endpoint, box, timeout, retry })

def endActor (w : World) (pid : Pid) (a : ActorProcess) : World :=
  (w.deregister a.endpoint).finish pid

-- Asks the first of some actors to stop; the others have their turn when it has ended.
def dismiss (w : World) (pid : Pid) (a : ActorProcess) (pids : List Pid) : World :=
  let w := w.setProcess pid (.actor { a with departing := pids })
  (pids.head?.map w.askToStop).getD w

-- A manager does not end before its singletons.
def stopActor (w : World) (pid : Pid) (a : ActorProcess) : World :=
  let children := match a.role with
    | .manager m children => m.running.filterMap (children.lookup ·)
    | _ => []
  w.dismiss pid { a with stage := .ending } children

def deliversFrom (w : World) (a : ActorProcess) : Proxy.Link := fun target _ p =>
  !(w.network.delivers a.endpoint.address p.message [target]).isEmpty

def forward (pid : Pid) (a : ActorProcess) (asked : Option AskId) (w : World) : Proxy.Effect → World
  | .forward target p => w.told a.endpoint.address [target] p.sender p.message
  | .arm => (w.spawn (.timer { actor := pid, delay := a.retry })).2
  | .relay target p =>
    (asked.map fun id => (w.spawn (.relay ⟨id, a.endpoint.address, target, p, a.timeout, false⟩)).2).getD w
  | .refuse e => (asked.map (w.reply · (.ofError e))).getD w

-- A proxy takes something in. Someone may wait for the answer.
def serve (w : World) (pid : Pid) (a : ActorProcess) (p : Proxy) (asked : Option AskId)
    (i : Proxy.Input) : World :=
  let (p, effects) := p.step (w.deliversFrom a) i
  effects.foldl (forward pid a asked) (w.setProcess pid (.actor { a with role := .proxy p }))

def isFree (w : World) (address name : String) : Bool :=
  !(w.network.box? ⟨address, Singleton.path name⟩).any w.network.isOpen

-- The singletons of a manager, and those of them that are to stop.
structure Staff where
  children : List (String × Pid)
  leaving  : List Pid := []

def follow (a : ActorProcess) (state : World × Staff) : Manager.Order → World × Staff
  | .start name =>
    let (w, s) := state
    match w.spawnActor a.endpoint.address (Singleton.path name) (.singleton name) a.timeout .zero with
    | .ok (pid, w) => (w, { s with children := s.children ++ [(name, pid)] })
    | .error _ => state
  | .stop name =>
    let (w, s) := state
    (w, ⟨s.children.filter (·.1 != name), s.leaving ++ (s.children.lookup name).toList⟩)

def carryOut (w : World) (pid : Pid) (a : ActorProcess) (children : List (String × Pid))
    (r : Manager × List Manager.Order) : World :=
  let (w, s) := r.2.foldl (follow a) (w, ⟨children, []⟩)
  w.dismiss pid { a with role := .manager r.1 s.children } s.leaving

def introduce (w : World) (pid : Pid) (a : ActorProcess) : World :=
  match a.role with
  | .singleton name =>
    if Singleton.Echo.fails name then w.endActor pid a
    else w.setProcess pid (.actor { a with stage := .running })
  | _ =>
    let address := a.endpoint.address
    let a := { a with cursor := some (w.bus address).subscribe }
    match w.ask pid address (.node address) (some a.endpoint) .viewRequest a.timeout with
    | (.ok _, w) => w.setProcess pid (.actor { a with stage := .asking })
    | (.error _, w) => w.setProcess pid (.actor { a with stage := .running })

-- Any answer but a view counts as none.
def settleIn (w : World) (pid : Pid) (a : ActorProcess) (answer : Answer) : World :=
  let a := { a with stage := .running }
  match a.role, answer with
  | .proxy p, .ok (.viewResponse _ _ leader) => w.serve pid a p none (.leader leader)
  | .manager m children, .ok (.viewResponse _ inQuorum leader) =>
    let address := a.endpoint.address
    w.carryOut pid a children (m.reconcile (w.isFree address) (leader = some address) inQuorum)
  | _, _ => w.setProcess pid (.actor a)

def handleMail (w : World) (pid : Pid) (a : ActorProcess) (m : Mail) : World :=
  match a.role, m.ask with
  | .manager .., ask => w.drop ask
  | .singleton _, ask =>
    let answer := Singleton.Echo.answer a.endpoint.address m.message
    match ask, m.sender with
    | some id, _ => w.reply id answer
    | none, some sender => w.told a.endpoint.address [sender] (some a.endpoint) answer
    | none, none => w
  | .proxy p, none => w.serve pid a p none (.tell ⟨m.sender, m.message⟩)
  | .proxy p, some id => w.serve pid a p id (.ask ⟨m.sender, m.message⟩)

def observe (w : World) (pid : Pid) (a : ActorProcess) (e : Event) : World :=
  match a.role, e with
  | .proxy p, .leaderChanged leader _ _ => w.serve pid a p none (.leader leader)
  | .manager m children, e =>
    w.carryOut pid a children (m.observe (w.isFree a.endpoint.address) e)
  | _, _ => w.setProcess pid (.actor a)

def retry (w : World) (pid : Pid) (a : ActorProcess) : World :=
  let a := { a with retries := a.retries - 1 }
  match a.role with
  | .proxy p => w.serve pid a p none .retry
  | _ => w.setProcess pid (.actor a)

def nextEvent? (w : World) (a : ActorProcess) : Option (Event × Cursor) :=
  a.cursor.bind (w.bus a.endpoint.address).next?

def stepRunning (w : World) (pid : Pid) (a : ActorProcess) : Option World :=
  if a.stopping then some (w.stopActor pid a)
  else match w.takeMail? a.box with
    | some (m, w) => some (w.handleMail pid a m)
    | none =>
      if !w.network.isConnected a.box then some (w.stopActor pid a)
      else if 0 < a.retries then some (w.retry pid a)
      else (w.nextEvent? a).map fun (e, cursor) => w.observe pid { a with cursor := some cursor } e

def stepActor (w : World) (pid : Pid) (a : ActorProcess) : Option World :=
  match a.departing, a.stage with
  | first :: others, _ => if w.isAlive first then none else some (w.dismiss pid a others)
  | [], .fresh => some (w.introduce pid a)
  | [], .asking => (w.takeAnswer? pid).map fun (answer, w) => w.settleIn pid a answer
  | [], .running => w.stepRunning pid a
  | [], .ending => some (w.endActor pid a)

def stepTimer (w : World) (pid : Pid) (t : TimerProcess) : Option World :=
  if !t.started then
    let w := w.setProcess pid (.timer { t with started := true })
    some { w with alarms := w.alarms ++ [(w.time + millis t.delay, .timer pid)] }
  else if t.rung then
    let w := (w.setJob t.actor fun j => match j.process with
      | .actor a => { j with process := .actor { a with retries := a.retries + 1 } }
      | _ => j).wake t.actor
    some (w.finish pid)
  else none

def stepJob (w : World) (j : Job) : Option World :=
  match j.process with
  | .node p => w.stepNode j.pid p
  | .actor a => w.stepActor j.pid a
  | .attempt p => w.stepAttempt j.pid p
  | .recovery r => w.stepRecovery j r
  | .relay r => w.stepRelay j.pid r
  | .timer t => w.stepTimer j.pid t
  | .client => w.stepClient j.pid

-- A process runs until it has nothing left to do, and then the next one.
def step (w : World) : Option World :=
  match w.ready with
  | [] => none
  | pid :: rest =>
    let w := w.expire pid
    match (w.job? pid).bind w.stepJob with
    | some w => some (w.putLast pid)
    | none => some { w with ready := rest }

def quiet : Nat → World → World
  | 0, w => w
  | n + 1, w => match w.step with
    | some w => quiet n w
    | none => w

-- More steps than any world takes that comes to rest.
def patience : Nat := 1000000

def ring (w : World) : Alarm → World
  | .timeout id => w.markOverdue id
  | .timer pid =>
    (w.setJob pid fun j => match j.process with
      | .timer t => { j with process := .timer { t with rung := true } }
      | _ => j).wake pid

def ringDue (w : World) : World :=
  let (due, later) := w.alarms.partition (·.1 ≤ w.time)
  (due.map Prod.snd).foldl ring { w with alarms := later }

-- Lets everything run that can. Alarms that are due at once ring only when all is quiet.
def rest (w : World) : World := quiet patience (quiet patience w).ringDue

def nextAlarm? (w : World) : Option Nat := (w.alarms.map Prod.fst).min?

-- Lets time pass up to an alarm.
def ringAt (w : World) (time : Nat) : World := { w with time := max w.time time }.rest

-- Lets time pass from alarm to alarm until something has come true.
def await (until_ : World → Bool) : Nat → World → World
  | 0, w => w
  | n + 1, w =>
    if until_ w then w
    else match w.nextAlarm? with
      | some time => await until_ n (w.ringAt time)
      | none => w

def sleepUntil (time : Nat) : Nat → World → World
  | 0, w => w
  | n + 1, w =>
    match w.nextAlarm?.filter (· ≤ time) with
    | some due => sleepUntil time n (w.ringAt due)
    | none => { w with time := max w.time time }

def sleep (w : World) (millis : Nat) : World :=
  (sleepUntil (w.time + min millis longestWait) patience w).rest

end GossipCluster.World
