import GossipCluster.Endpoint
import GossipCluster.Message.Basic
import GossipCluster.Wire.Message

namespace GossipCluster

abbrev AskId := Nat

-- A message in a mailbox; `ask` is the request that waits for an answer to it.
structure Mail where
  sender  : Option Endpoint
  message : Message
  ask     : Option AskId
deriving Repr

abbrev BoxId := Nat

-- A mailbox that nobody reads any more is not open.
structure Mailbox where
  mail   : List Mail := []
  isOpen : Bool := true
deriving Repr, Inhabited

-- Mailboxes at endpoints, and links between addresses that can be cut. A message is carried in its wire form.
structure Network where
  boxes     : Array Mailbox := #[]
  registry  : List (Endpoint × BoxId) := []
  isolated  : List String := []
  cut       : List (String × String) := []
deriving Repr

namespace Network

def link (a b : String) : String × String := if a ≤ b then (a, b) else (b, a)

-- An address always reaches itself.
def reachable (n : Network) (a b : String) : Bool :=
  a = b || !(n.isolated.contains a || n.isolated.contains b || n.cut.contains (link a b))

def isolate (n : Network) (a : String) : Network := { n with isolated := a :: n.isolated }

def partition (n : Network) (a b : String) : Network := { n with cut := link a b :: n.cut }

def heal (n : Network) (a : String) : Network := { n with
  isolated := n.isolated.filter (· != a)
  cut := n.cut.filter fun (b, c) => b != a && c != a }

def healAll (n : Network) : Network := { n with isolated := [], cut := [] }

def box? (n : Network) (target : Endpoint) : Option BoxId := n.registry.lookup target

def isOpen (n : Network) (id : BoxId) : Bool := (n.boxes[id]?).any (·.isOpen)

def isRegistered (n : Network) (target : Endpoint) : Bool := (n.box? target).isSome

-- Whether anything more can be put into a mailbox.
def isConnected (n : Network) (id : BoxId) : Bool := n.registry.any (·.2 = id)

def deregister (n : Network) (target : Endpoint) : Network :=
  { n with registry := n.registry.filter (·.1 ≠ target) }

-- A new mailbox may take the place of one that nobody reads.
def register (n : Network) (target : Endpoint) : Except Error (BoxId × Network) :=
  if (n.box? target).any n.isOpen then
    .error (.internal ("mailbox " ++ target.text ++ " is already registered"))
  else
    let id := n.boxes.size
    .ok (id, { n.deregister target with
      boxes := n.boxes.push {}, registry := (target, id) :: (n.deregister target).registry })

-- The mailbox that a message reaches.
def route (n : Network) (source : String) (target : Endpoint) : Except Error BoxId :=
  if !n.reachable source target.address then
    .error (.transport target.text (target.address ++ " is unreachable from " ++ source))
  else match (n.box? target).filter n.isOpen with
    | some id => .ok id
    | none => .error (.actorNotFound target.text)

def carry (m : Message) : Except Error Message := Wire.encode m >>= Wire.decode

def put (n : Network) (id : BoxId) (mail : Mail) : Network :=
  { n with boxes := n.boxes.modify id fun b => { b with mail := b.mail ++ [mail] } }

-- Puts a message that has been carried into the mailbox of its target.
def place (n : Network) (source : String) (target : Endpoint) (mail : Mail) :
    Except Error (BoxId × Network) :=
  (n.route source target).map fun id => (id, n.put id mail)

def deliver (n : Network) (source : String) (target : Endpoint) (mail : Mail) :
    Except Error (BoxId × Network) := do
  let message ← carry mail.message
  n.place source target { mail with message := message }

-- Those of some targets that a message reaches.
def delivers (n : Network) (source : String) (m : Message) (targets : List Endpoint) :
    List Endpoint :=
  let routed := targets.filter fun target => (n.route source target).isOk
  if !routed.isEmpty && (carry m).isOk then routed else []

def mail (n : Network) (id : BoxId) : List Mail := ((n.boxes[id]?).map (·.mail)).getD []

def setMail (n : Network) (id : BoxId) (mail : List Mail) : Network :=
  { n with boxes := n.boxes.modify id fun b => { b with mail := mail } }

-- Nobody reads the mailbox from now on; what was in it is lost.
def close (n : Network) (id : BoxId) : Network :=
  { n with boxes := n.boxes.modify id fun _ => ⟨[], false⟩ }

end Network

end GossipCluster
