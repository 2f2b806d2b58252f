import GossipCluster.CommandLine.Outcome

namespace GossipCluster.CommandLine

def environment : IO Environment :=
  Environment.names.foldlM (fun env name => do
    match ← IO.getEnv name with
    | some value => return env.put name value
    | none => return env) ∅

-- A file that cannot be read is as good as none.
def contents (name : String) : IO (Option String) := do
  try return some (← IO.FS.readFile name)
  catch _ => return none

def usage : String := "usage: config | simulate | token join | token admin"

def complain : Outcome → IO Unit
  | .printed _ => return
  | .failed e => IO.eprintln e.message
  | .crashed => IO.eprintln "a limit of this machine was exceeded"
  | .misused => IO.eprintln usage

def program (args : List String) : IO UInt32 := do
  let env ← environment
  let text ← match Request.parse? env args with
    | some (.config (some name) _) => contents name
    | _ => pure none
  let outcome := run env (fun _ => text) args
  IO.print outcome.output
  complain outcome
  return outcome.status.toUInt32

end GossipCluster.CommandLine

def main (args : List String) : IO UInt32 := GossipCluster.CommandLine.program args
