import GossipCluster.CommandLine.Arguments
import GossipCluster.Config.Environment
import GossipCluster.Simulation

namespace GossipCluster.CommandLine

inductive Format
  | toml
  | json
deriving DecidableEq, Repr, Inhabited

def Format.ofName? : String → Option Format
  | "toml" => some toml
  | "json" => some json
  | _ => none

-- Without a file the configuration comes from the environment.
inductive Request
  | config (file : Option String) (format : Format)
  | simulate (s : Simulation) (json : Bool)
  | joinToken (secret cluster nodeId address : String)
  | adminToken (secret : String)
deriving DecidableEq, Repr, Inhabited

namespace Request

-- Every command knows the option for the log.
def options (names : List String) : List String := "log" :: names

def readConfig (args : List String) : Option Request := do
  let a ← Arguments.parse? { options := options ["file", "format"] } args
  let file := a.value? "file"
  if file = some "" then none
  else return .config file (← Format.ofName? ((a.value? "format").getD "toml"))

def readSimulate (args : List String) : Option Request := do
  let a ← Arguments.parse?
    { options := options ["nodes", "timeout", "join-secret"], flags := ["metrics", "json"] } args
  let number (name default : String) := Text.natural? UInt64.size ((a.value? name).getD default)
  return .simulate ⟨← number "nodes" "3", ← number "timeout" "10", a.value? "join-secret"⟩ (a.has "json")

def readToken (env : Environment) (args : List String) : Option Request := do
  let a ← Arguments.parse? { options := options [], commands := ["join", "admin"] } args
  match ← a.command with
  | ("join", args) =>
    let a ← Arguments.parse? { options := options ["secret", "cluster", "node-id", "address"] } args
    return .joinToken (← a.value? "secret" <|> env.get? "MESHWORK_JOIN_SECRET")
      (← a.value? "cluster") (← a.value? "node-id") (← a.value? "address")
  | (_, args) =>
    let a ← Arguments.parse? { options := options ["secret"] } args
    return .adminToken (← a.value? "secret" <|> env.get? "MESHWORK_ADMIN_SECRET")

-- A secret that is not given is looked up in the environment.
def parse? (env : Environment) (args : List String) : Option Request := do
  let a ← Arguments.parse?
    { options := options [], commands := ["config", "simulate", "token"] } args
  match ← a.command with
  | ("config", args) => readConfig args
  | ("simulate", args) => readSimulate args
  | (_, args) => readToken env args

end Request

end GossipCluster.CommandLine
