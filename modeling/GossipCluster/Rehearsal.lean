import GossipCluster.Node.Attempt
import GossipCluster.Node.Step

namespace GossipCluster

structure Sent where
  target  : Endpoint
  message : Message
  failed  : Bool
deriving Repr

-- What has been seen of a node since the last look; `ended` tells whether a request to end found it
-- running.
structure Scene where
  events  : List Event := []
  reply   : Option Message := none
  told    : List Sent := []
  asked   : List Sent := []
  changes : List Change := []
  ended   : Option Bool := none
deriving Repr

-- `resolutions` are the next sets of seeds that are found, `replies` the next answers of each address;
-- what is told to `failing` addresses does not arrive.
structure Rehearsal where
  node        : Node
  now         : Timestamp
  seeds       : Seeds
  resolutions : List (Option (List Seed)) := []
  replies     : Dict (List (Except Error Message)) := ∅
  failing     : List String := []
  running     : Bool := true
  scene       : Scene := {}

namespace Rehearsal

def host (r : Rehearsal) : Host where
  now      := r.now
  instant  := 0
  seeds    := r.seeds
  delivers := fun _ targets => targets.filter (!r.failing.contains ·.address)

def refreshSeeds (r : Rehearsal) : Rehearsal :=
  { r with seeds := r.seeds.refresh (r.resolutions.headD none), resolutions := r.resolutions.tail }

def unanswered (target : Endpoint) : Error := .transport target.text "no scripted reply"

def ask (r : Rehearsal) (address : String) (m : Message) : Except Error Message × Rehearsal :=
  let target := Endpoint.node address
  let replies := (r.replies.get? address).getD []
  (replies.headD (.error (unanswered target)), { r with
    replies := r.replies.put address replies.tail
    scene.asked := r.scene.asked ++ [⟨target, m, false⟩] })

def attempt (request : Message) :
    List String → Error → Rehearsal → Except Error View × Rehearsal
  | [], failure, r => (.error failure, r)
  | seed :: seeds, _, r =>
    let (answer, r) := r.ask seed request
    match JoinAttempt.outcome seed answer with
    | .ok view => (.ok view, r)
    | .error e => attempt request seeds e r

def probe : List String → Rehearsal → List View × Rehearsal
  | [], r => ([], r)
  | address :: addresses, r =>
    let (answer, r) := r.ask address .viewRequest
    let (views, r) := probe addresses r
    ((Message.view? answer).toList ++ views, r)

-- Carries out one effect; an attempt to join and a search come back as inputs.
def perform (r : Rehearsal) : Effect → Rehearsal × List Input
  | .publish e => ({ r with scene.events := r.scene.events ++ [e] }, [])
  | .send targets m =>
    let told := targets.map fun target => ⟨target, m, r.failing.contains target.address⟩
    ({ r with scene.told := r.scene.told ++ told }, [])
  | .reply m => ({ r with scene.reply := some m }, [])
  | .measure c => ({ r with scene.changes := r.scene.changes ++ [c] }, [])
  | .halt => ({ r with running := false }, [])
  | .join number self token =>
    let r := r.refreshSeeds
    let a := JoinAttempt.begin number self token (r.seeds.forJoin self.datacenter []).1
    let (result, r) := attempt a.request a.seeds a.failure r
    (r, [.joinOutcome number result])
  | .probe addresses =>
    let (views, r) := probe addresses r
    (r, [.recovered views])

def performAll (r : Rehearsal) (turn : Node × List Effect) : Rehearsal × List Input :=
  turn.2.foldl (fun (r, inputs) e =>
    let (r, more) := r.perform e
    (r, inputs ++ more)) ({ r with node := turn.1 }, [])

-- Inputs that come back lead to no further ones, so a few rounds are enough.
def settle : Nat → List Input → Rehearsal → Rehearsal
  | 0, _, r => r
  | rounds + 1, inputs, r =>
    let (r, more) := inputs.foldl (fun (r, more) i =>
      if r.running then
        let (r, new) := r.performAll (r.node.step r.host i)
        (r, more ++ new)
      else (r, more)) (r, [])
    settle rounds more r

def post (r : Rehearsal) (i : Input) : Rehearsal := settle 4 [i] r

def start (r : Rehearsal) : Rehearsal :=
  let r := r.refreshSeeds
  let (r, inputs) := r.performAll (r.node.start r.host)
  settle 4 inputs r

-- Fires a schedule, if there is one.
def fire (r : Rehearsal) (t : Tick) : Bool × Rehearsal :=
  if (r.node.timers.get t).isNone then (false, r)
  else (true, { r with node := { r.node with timers := r.node.timers.fire t } }.post (.tick t))

-- The schedules of a node that could not go on stay behind.
def shutdown (r : Rehearsal) : Rehearsal :=
  if r.running then { r with node := r.node.stop, running := false, scene.ended := some true }
  else { r with scene.ended := some false }

end Rehearsal

end GossipCluster
