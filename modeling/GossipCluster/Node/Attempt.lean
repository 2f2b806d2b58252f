import GossipCluster.Member.Basic
import GossipCluster.Endpoint
import GossipCluster.Message.Basic

namespace GossipCluster

-- One round of asking the seeds, one after the other, until one of them lets the node in.
structure JoinAttempt where
  number  : Nat
  self    : Member
  token   : String
  seeds   : List String
  failure : Error := .joinNotAllowed "no reachable seed configured"
deriving Repr

namespace JoinAttempt

-- A node does not ask itself.
def begin (number : Nat) (self : Member) (token : String) (seeds : List String) : JoinAttempt :=
  ⟨number, self, token, seeds.filter (· != self.address),
    .joinNotAllowed "no reachable seed configured"⟩

def request (a : JoinAttempt) : Message := .joinRequest a.self a.token

-- What the answer of a seed comes to: the view of the cluster, or the reason to ask the next one.
def outcome (seed : String) (answer : Except Error Message) : Except Error View :=
  match answer >>= Message.toExcept with
  | .ok (.joinResponse view) => .ok view
  | .ok other =>
    .error (.unexpectedResponse "join" ("seed " ++ seed ++ " answered with " ++ other.name))
  | .error e => .error e

def failed (a : JoinAttempt) (e : Error) : JoinAttempt := { a with seeds := a.seeds.tail, failure := e }

end JoinAttempt

-- The view in an answer to a search; answers of any other kind are passed over.
def Message.view? : Except Error Message → Option View
  | .ok (.viewResponse view _ _) => some view
  | _ => none

end GossipCluster
