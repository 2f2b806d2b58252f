import GossipCluster.Endpoint
import GossipCluster.Message.Basic

namespace GossipCluster

namespace Singleton

def managerPath : String := "/@cluster-singletons"

def path (name : String) : String := managerPath ++ "/" ++ name

def proxyPath (name : String) : String := "/@cluster-singleton-proxies/" ++ name

-- Where a singleton is, by the leader of the cluster.
def location (name : String) (leader : Option String) : Option Endpoint :=
  leader.map (⟨·, path name⟩)

end Singleton

-- A message that is to be passed on as if it came from its sender.
structure Parcel where
  sender  : Option Endpoint
  message : Message
deriving DecidableEq, Repr, Inhabited

-- Stands on every node for a singleton, which lives on the leader: it passes messages on to wherever the singleton is,
-- and keeps them while that is not known or cannot be reached.
structure Proxy where
  name       : String
  location   : Option Endpoint := none
  buffer     : List Parcel := []
  retryArmed : Bool := false
deriving DecidableEq, Repr, Inhabited

namespace Proxy

-- What reaches a proxy. It asks who leads the cluster when it starts, and hears of later leaders.
inductive Input
  | leader (address : Option String)
  | tell (parcel : Parcel)
  | ask (parcel : Parcel)
  | retry
deriving DecidableEq, Repr, Inhabited

-- What it does: a message that got through has been forwarded, a request is passed on or refused, and
-- `arm` starts a timer, which makes it try again when it runs out.
inductive Effect
  | forward (target : Endpoint) (parcel : Parcel)
  | arm
  | relay (target : Endpoint) (parcel : Parcel)
  | refuse (e : Error)
deriving DecidableEq, Repr

-- Whether a message gets through to a target, after some others have been forwarded to it.
abbrev Link := Endpoint → List Parcel → Parcel → Bool

-- Passes messages on in order, up to the first that does not get through. Says which have been sent by
-- then and which are left.
def passOn (delivers : List Parcel → Parcel → Bool) (sent : List Parcel) :
    List Parcel → List Parcel × List Parcel
  | [] => (sent, [])
  | parcel :: rest =>
    if delivers sent parcel then passOn delivers (sent ++ [parcel]) rest else (sent, parcel :: rest)

-- One timer at a time is enough.
def armRetry (p : Proxy) : Proxy × List Effect :=
  if p.retryArmed then (p, []) else ({ p with retryArmed := true }, [.arm])

def flush (p : Proxy) (link : Link) : Proxy × List Effect :=
  match p.location with
  | none => (p, [])
  | some target =>
    let (sent, left) := passOn (link target) [] p.buffer
    let p := { p with buffer := left }
    let (p, arming) := if left.isEmpty then (p, []) else p.armRetry
    (p, sent.map (.forward target) ++ arming)

def relocate (p : Proxy) (leader : Option String) (link : Link) : Proxy × List Effect :=
  { p with location := Singleton.location p.name leader }.flush link

-- Messages that wait for a retry keep their place before later ones.
def tell (p : Proxy) (parcel : Parcel) (link : Link) : Proxy × List Effect :=
  let p := { p with buffer := p.buffer ++ [parcel] }
  if p.retryArmed then (p, []) else p.flush link

def retry (p : Proxy) (link : Link) : Proxy × List Effect :=
  { p with retryArmed := false }.flush link

-- Where a request is passed on to; without a location it is refused.
def ask (p : Proxy) : Except Error Endpoint :=
  match p.location with
  | some target => .ok target
  | none => .error (.actorNotFound (Singleton.path p.name))

-- Requests go past the messages that wait.
def step (p : Proxy) (link : Link) : Input → Proxy × List Effect
  | .leader address => p.relocate address link
  | .tell parcel => p.tell parcel link
  | .ask parcel =>
    match p.ask with
    | .ok target => (p, [.relay target parcel])
    | .error e => (p, [.refuse e])
  | .retry => p.retry link

end Proxy

end GossipCluster
