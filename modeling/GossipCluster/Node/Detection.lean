import GossipCluster.Node.Turn

namespace GossipCluster.Turn

def suspectAll (v : View) (ids : List String) : View := ids.foldl (·.setStatus · .suspect) v

def removeAll (v : View) (ids : List String) : View := ids.foldl (·.remove ·) v

def applyDetection (t : Turn) (d : Detection) : Turn :=
  if d.isEmpty then t
  else
    let before := t.node.view
    let t := t.setView (removeAll (suspectAll t.node.view d.suspect) d.remove)
    ((t.measure .membersRemoved d.remove.length).recordChange.broadcast).announce before

-- A few seeds are asked for what they know, one time after the other.
def startRecovery (t : Turn) : Turn :=
  let others := t.host.seeds.addresses.filter (· != t.node.address)
  let seeds := others.take t.node.config.failure.recoverySeeds
  if t.node.recovering || seeds.isEmpty then t
  else ({ t with node := { t.node with recovering := true } }).emit (.probe seeds)

def detectFailures (t : Turn) : Turn :=
  let t := t.heartbeat
  match t.node.detector.detect? t.node.view t.node.self.id t.node.self.datacenter t.now with
  | none => t.emit .halt
  | some d =>
    let t := t.applyDetection d
    if t.node.inQuorum then t else t.startRecovery

def learnAll (t : Turn) (views : List View) : Turn × Bool :=
  views.foldl (fun (t, changed) v =>
    let (t, more) := t.learn v
    (t, changed || more)) (t, false)

def receiveRecovered (t : Turn) (views : List View) : Turn :=
  let t := { t with node := { t.node with recovering := false } }
  if !t.node.isUp || views.isEmpty then t
  else
    let learned := t.learnAll views
    learned.1.conclude t.node.view learned.2 false

end GossipCluster.Turn
