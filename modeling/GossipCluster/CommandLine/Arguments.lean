namespace GossipCluster.CommandLine

-- What a command understands. An option has a value, a flag has none.
structure Grammar where
  options  : List String := []
  flags    : List String := []
  commands : List String := []
deriving Repr

-- What a command was given, with the arguments that are left for a further one.
structure Arguments where
  values  : List (String × String) := []
  flags   : List String := []
  command : Option (String × List String) := none
deriving DecidableEq, Repr, Inhabited

namespace Arguments

def value? (a : Arguments) (name : String) : Option String := a.values.lookup name

def has (a : Arguments) (flag : String) : Bool := a.flags.contains flag

-- The name of an option, and the value that an equals sign attaches to it.
def option? (arg : String) : Option (String × Option String) :=
  match arg.toList with
  | '-' :: '-' :: cs =>
    let name := cs.takeWhile (· != '=')
    let attached := match cs.dropWhile (· != '=') with
      | _ :: value => some (String.ofList value)
      | [] => none
    some (.ofList name, attached)
  | _ => none

-- A value of its own does not look like an option; a single dash does not either.
def isValue (arg : String) : Bool := arg = "-" || !arg.startsWith "-"

def set (a : Arguments) (g : Grammar) (name value : String) : Option Arguments :=
  if g.options.contains name && (a.value? name).isNone then
    some { a with values := (name, value) :: a.values }
  else none

def raise (a : Arguments) (g : Grammar) (flag : String) : Option Arguments :=
  if g.flags.contains flag && !a.has flag then some { a with flags := flag :: a.flags } else none

-- Nothing may be given twice, and nothing may follow a bare double dash.
def read (g : Grammar) (a : Arguments) : List String → Option Arguments
  | [] => some a
  | "--" :: rest => if rest.isEmpty then some a else none
  | arg :: rest =>
    match option? arg with
    | some (name, some value) => (a.set g name value).bind (read g · rest)
    | some (name, none) =>
      match a.raise g name, rest with
      | some a, rest => read g a rest
      | none, value :: rest =>
        if isValue value then (a.set g name value).bind (read g · rest) else none
      | none, [] => none
    | none => if g.commands.contains arg then some { a with command := some (arg, rest) } else none

def parse? (g : Grammar) (args : List String) : Option Arguments := read g {} args

end Arguments

end GossipCluster.CommandLine
