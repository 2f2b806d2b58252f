import GossipCluster.CommandLine.Request
import GossipCluster.Config.Document
import GossipCluster.Document.Json
import GossipCluster.Token

namespace GossipCluster.CommandLine

inductive Outcome
  | printed (text : String)
  | failed (e : Error)
  | crashed
  | misused
deriving Repr

namespace Outcome

def status : Outcome → Nat
  | printed _ => 0
  | failed _ => 1
  | misused => 2
  | crashed => 101

def output : Outcome → String
  | printed text => text
  | _ => ""

def ofText : Except Error (Option String) → Outcome
  | .ok (some text) => printed (text ++ "\n")
  | .ok none => crashed
  | .error e => failed e

end Outcome

namespace Request

-- The clock counts seconds in 63 bits, of which it has spent some already: it cannot show when such a
-- wait is over.
def endless (s : Simulation) : Bool := s.timeout ≥ 9223372036854775807 - 500000

-- There is no room for the handles of so many nodes.
def tooMany (s : Simulation) : Bool := s.nodes ≥ 1 <<< 60

def simulated (s : Simulation) (json : Bool) : Outcome :=
  if s.nodes = 0 then .failed (.internal "--nodes must be at least 1")
  else if tooMany s || endless s then .crashed
  else match s.run with
    | .error e => .failed e
    | .ok r => .printed (if json then Document.Json.text r.toDocument ++ "\n" else r.text)

-- Nothing, if the configuration cannot be written.
def shown (format : Format) (c : Config) : Except Error (Option String) :=
  match format with
  | .toml => c.toToml
  | .json => .ok (some (Document.Json.text c.toDocument))

-- Shows a configuration that could be read.
def shownIfRead (format : Format) : Option Config → Except Error (Option String)
  | some c => shown format c
  | none => .ok none

-- `files` gives what can be read under a name.
def run (env : Environment) (files : String → Option String) : Request → Outcome
  | config file format =>
    let c := match file with
      | some name => Config.ofFile (files name)
      | none => (Config.ofEnvironment env).map some
    .ofText (c >>= shownIfRead format)
  | simulate s json => simulated s json
  | joinToken secret cluster nodeId address => .ofText (.ok (some (Token.join secret cluster nodeId address)))
  | adminToken secret => .ofText (.ok (some (Token.admin secret)))

end Request

def run (env : Environment) (files : String → Option String) (args : List String) : Outcome :=
  match Request.parse? env args with
  | some r => r.run env files
  | none => .misused

end GossipCluster.CommandLine
