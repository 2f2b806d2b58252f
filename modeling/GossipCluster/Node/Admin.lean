import GossipCluster.Node.Turn

namespace GossipCluster.Turn

def announceLeave (t : Turn) : Turn :=
  if t.node.isUp then (t.setStatus .leaving).recordChange.broadcast else t

-- A node that has not joined yet leaves without a word.
def leave (t : Turn) : Turn :=
  if t.node.phase = .exited then t
  else
    let before := t.node.view
    let t := (t.setTimers .none).announceLeave
    (((t.setStatus .exiting).setPhase .exited).announce before).publish
      (some (.leaveCompleted t.node.self.id))

def checkAdmin (n : Node) (operation token : String) : Except Error Unit :=
  if Token.acceptsAdmin n.config.security.adminSecret token then .ok ()
  else .error (.adminAuthFailed operation)

def checkForceDown (n : Node) (id token : String) : Except Error Unit := do
  checkAdmin n "force_member_down" token
  if id = n.self.id then .error (.statusMismatch id "remote member" "local node")

def forceDown (t : Turn) (id : String) : Turn :=
  match t.node.view.remove? id with
  | none => t
  | some (_, view) =>
    let before := t.node.view
    (((t.setView view).measure .membersRemoved 1).recordChange.broadcast).announce before

def triggerBroadcast (t : Turn) : Turn :=
  if t.node.isUp then t.heartbeat.broadcast else t

-- A node takes its state only from its own address, and only while it has not left.
def checkUpdate (n : Node) (sender : Option Endpoint) : Except Error Unit :=
  if sender.map (·.address) ≠ some n.address then .error (.adminAuthFailed "update_node_state")
  else if n.phase = .exited then
    .error (.statusMismatch n.self.id Status.up.name n.self.status.name)
  else .ok ()

def updateState (t : Turn) (state : Dict String) : Turn :=
  let before := t.node.view
  let t := ((t.become { t.node.self with state := state }).setStatus t.node.self.status).recordChange
  (if t.node.isUp then t.broadcast else t).announce before

-- Does what has been asked for if the check is passed, and says whether it was.
def whenAllowed (t : Turn) (e : Envelope) (check : Except Error Unit) (f : Turn → Turn) : Turn :=
  match check with
  | .ok _ => (f t).respond e .adminAck
  | .error error => t.respond e (.ofError error)

end GossipCluster.Turn
