import GossipCluster.World.Cluster

namespace GossipCluster

-- `timeout` counts the seconds for which the nodes may look for each other.
structure Simulation where
  nodes      : Nat
  timeout    : Nat
  joinSecret : Option String
deriving DecidableEq, Repr, Inhabited

namespace Simulation

def address (i : Nat) : String := "127.0.0.1:" ++ toString (7001 + i)

-- All nodes look for the first one.
def config (s : Simulation) (i : Nat) : Config := { Config.fast (address i) with
  clusterName := "simulation"
  node.id := "node-" ++ toString (i + 1)
  discovery.seeds := [address 0]
  security.joinSecret := s.joinSecret }

def launch (s : Simulation) (w : World) (i : Nat) : Except Error (List Handle) × World :=
  match w.launch ⟨s.config i, address i, [], []⟩ with
  | (.running h, w) => (.ok [h], w)
  | (.refused e, w) => (.error e, w)
  | (.disabled, w) => (.error .clusterDisabled, w)
  | (.broken, w) => (.ok [], w)

def launchAll (s : Simulation) : Except Error (List Handle × World) :=
  (List.range s.nodes).foldlM (fun (handles, w) i =>
    let (started, w) := s.launch w i
    started.map fun h => (handles ++ h, w)) ([], {})

-- Whether every node sees all of them healthy.
def isTogether (s : Simulation) (handles : List Handle) (w : World) : Bool :=
  handles.all fun h => (h.standing w).1.toOption.any (·.view.healthy = s.nodes)

def period : Nat := 50

-- All that the nodes have scheduled is done once, and some time passes.
def round (w : World) : World :=
  let w := w.schedule.keys.foldl (fun w key => (w.fire key).2) w
  { w with now := w.now.advance (.ofMillis period) }.sleep period

def settle (s : Simulation) (handles : List Handle) : Nat → World → Bool × World
  | 0, w => (s.isTogether handles w, w)
  | n + 1, w => if s.isTogether handles w then (true, w) else settle s handles n (round w)

def rounds (s : Simulation) : Nat := s.timeout * 1000 / period

-- What the first node knows in the end, and how many milliseconds that took.
structure Report where
  nodes     : Nat
  converged : Bool
  elapsed   : Nat
  standing  : Standing
deriving Repr

def run (s : Simulation) : Except Error Report := do
  let (handles, w) ← s.launchAll
  let (converged, after) := s.settle handles s.rounds w.rest
  match handles with
  | [] => .error (.internal "a cluster has at least one node")
  | first :: _ => return ⟨s.nodes, converged, after.time - w.time, ← (first.standing after).1⟩

namespace Report

def row (m : Member) : Document := .table [
  ("id", .string m.id), ("address", .string m.address), ("status", .string m.status.name),
  ("generation", .integer m.generation.toNat)]

def toDocument (r : Report) : Document := .table [
  ("nodes", .integer r.nodes), ("converged", .bool r.converged), ("elapsed_ms", .integer r.elapsed),
  ("leader", .optional .string r.standing.leader), ("in_quorum", .bool r.standing.inQuorum),
  ("members", .list (r.standing.view.members.rows.map row))]

def column (width : Nat) (s : String) : String :=
  s ++ .ofList (List.replicate (width - s.length) ' ') ++ " "

def line (id address status generation : String) : String :=
  column 12 id ++ column 20 address ++ column 10 status ++ generation ++ "\n"

def text (r : Report) : String :=
  toString r.nodes ++ " nodes, converged: " ++ toString r.converged ++ ", after " ++
    toString r.elapsed ++ " ms\nleader: " ++ r.standing.leader.getD "-" ++ "\n" ++
    line "ID" "ADDRESS" "STATUS" "GEN" ++
    String.join (r.standing.view.members.rows.map fun m =>
      line m.id m.address m.status.name (toString m.generation.toNat))

end Report

end Simulation

end GossipCluster
