import GossipCluster.Address.Allowlist
import GossipCluster.Node.Turn

namespace GossipCluster.Turn

def joinToken (n : Node) : String :=
  match n.config.security.joinSecret with
  | none | some "" => ""
  | some secret => Token.join secret n.config.clusterName n.self.id n.address

-- The attempt goes on beside the node; its outcome comes back as an input.
def beginJoin (t : Turn) (attempt : Nat) : Turn :=
  (t.setPhase (.joining attempt true)).emit (.join attempt t.node.self (joinToken t.node))

def retryJoin (t : Turn) : Turn :=
  match t.node.phase with
  | .joining attempt false => t.beginJoin attempt
  | _ => t

def failJoin (t : Turn) (attempt : Nat) : Turn :=
  match (t.node.config.join.backoff.delay? attempt t.host.words).1 with
  | none => t.emit .halt
  | some delay =>
    (t.setPhase (.joining (Phase.nextAttempt attempt) false)).setTimers
      { t.node.timers with joinRetry := some delay }

-- Whether an entry of this node in another view is from elsewhere or from an earlier run.
def isStaleTwin (self prior : Member) : Bool :=
  self.generation < prior.generation ||
    prior.generation = self.generation && !(prior.clock = self.clock && prior.timestamp = self.timestamp)

-- The node as it enters the cluster, past a stale twin of it.
def entrant (self : Member) (view : View) (now : Timestamp) : Except Error Member :=
  match view.member? self.id with
  | some prior => if isStaleTwin self prior then self.supersede prior now else .ok self
  | none => .ok self

def completeJoin (t : Turn) (self : Member) (view : View) : Turn :=
  let before := t.node.view
  let (t, _) := (t.become self).learn view
  ((t.setStatus .up).recordChange.enterUp.broadcast).announce before

def settleJoin (t : Turn) (attempt : Nat) : Except Error View → Turn
  | .error _ => t.failJoin attempt
  | .ok view =>
    match entrant t.node.self view t.now with
    | .error _ => t.failJoin attempt
    | .ok self => t.completeJoin self view

-- An outcome of an earlier attempt counts for nothing.
def receiveOutcome (t : Turn) (attempt : Nat) (result : Except Error View) : Turn :=
  match t.node.phase with
  | .joining current _ => if attempt = current then t.settleJoin attempt result else t
  | _ => t

-- A response that comes by itself belongs to the attempt that is under way.
def receiveResponse (t : Turn) (view : View) : Turn :=
  match t.node.phase with
  | .joining attempt _ => t.settleJoin attempt (.ok view)
  | _ => t

def isMalformed (joiner : Member) : Bool :=
  joiner.id = "" || joiner.address = "" || joiner.address.utf8ByteSize > Member.maxAddressBytes

-- Who and from where a joiner must be; the first fault counts.
def checkIdentity (n : Node) (joiner : Member) (token : String) : Except Error Unit :=
  let security := n.config.security
  let secret := security.joinSecret.getD ""
  if joiner.cluster ≠ n.config.clusterName then
    .error (.nameMismatch n.config.clusterName joiner.cluster)
  else if joiner.status ≠ .joining then
    .error (.statusMismatch joiner.id Status.joining.name joiner.status.name)
  else if isMalformed joiner then .error (.joinNotAllowed "joiner identity is malformed")
  else if !Token.acceptsJoin secret n.config.clusterName joiner.id joiner.address token then
    .error (.joinAuthFailed joiner.id)
  else if !n.allowedAddresses.allows joiner.address then
    .error (.joinNotAllowed ("address " ++ joiner.address ++ " is not in the allow-list"))
  else if !(DatacenterAllowlist.new security.allowedDatacenters).allows joiner.datacenter then
    .error (.joinNotAllowed ("datacenter " ++ joiner.datacenter ++ " is not in the allow-list"))
  else .ok ()

def checkQuorum (n : Node) : Except Error Unit :=
  if n.inQuorum then .ok ()
  else
    let tally := n.quorumRule.tally n.view
    .error (.notInQuorum (.ofNat tally.healthy) (.ofNat tally.required))

-- A joiner that passes all checks of who it is uses up some of what its address may ask for.
def checkAdmission (t : Turn) (joiner : Member) (token : String) : Turn × Except Error Unit :=
  match checkIdentity t.node joiner token with
  | .error e => (t, .error e)
  | .ok _ =>
    let (allowed, limiter) := t.node.joinLimiter.allow joiner.address t.host.instant
    let t := { t with node := { t.node with joinLimiter := limiter } }
    if allowed then (t, checkQuorum t.node) else (t, .error (.joinRateLimited joiner.address))

def rejectReason : Error → String
  | .nameMismatch .. => "name_mismatch"
  | .statusMismatch .. => "status_mismatch"
  | .joinAuthFailed .. => "auth_failed"
  | .joinNotAllowed .. => "not_allowed"
  | .joinRateLimited .. => "rate_limited"
  | .notInQuorum .. => "not_in_quorum"
  | _ => "other"

-- The joiner has its answer before the others hear of it.
def welcome (t : Turn) (e : Envelope) (joiner : Member) : Turn :=
  let before := t.node.view
  let member := { joiner with status := .up, lastSeen := t.now }
  let t := (t.setView (t.node.view.add member)).recordChange
  ((t.respond e (.joinResponse t.node.view)).broadcast (some member.id)).announce before

def receiveJoin (t : Turn) (e : Envelope) (joiner : Member) (token : String) : Turn :=
  match t.checkAdmission joiner token with
  | (t, .error error) =>
    (t.measure (.joinRejected (rejectReason error)) 1).respond e (.ofError error)
  | (t, .ok _) => t.welcome e joiner

end GossipCluster.Turn
