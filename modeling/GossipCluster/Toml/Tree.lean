import GossipCluster.Document.Basic

namespace GossipCluster.Toml

-- A table is defined once, by a header, by a value or by dotted keys; the tables around it come into being by themselves.
inductive Origin
  | header
  | parent
  | dotted
deriving DecidableEq, Repr

inductive Tree
  | value (d : Document)
  | table (origin : Origin) (fields : List (String × Tree))
  | tables (before : List (List (String × Tree))) (last : List (String × Tree))

abbrev Fields := List (String × Tree)

namespace Fields

-- A field that is there already keeps its place.
def set (fields : Fields) (name : String) (t : Tree) : Fields :=
  if (fields.lookup name).isSome then fields.map fun (n, u) => (n, if n = name then t else u)
  else fields ++ [(name, t)]

def erase (fields : Fields) (name : String) : Fields := fields.filter (·.1 != name)

-- Changes the table at a path of headers, where tables that are missing come into being. In a list
-- of tables the last is meant.
def within (change : Fields → Option Fields) : List String → Fields → Option Fields
  | [], fields => change fields
  | name :: path, fields => do
    match fields.lookup name with
    | none => return fields.set name (.table .parent (← within change path []))
    | some (.table origin inner) => return fields.set name (.table origin (← within change path inner))
    | some (.tables before last) => return fields.set name (.tables before (← within change path last))
    | some (.value _) => none

-- Defines a table by a header. Only tables that came into being by themselves may be defined later;
-- they take the last place.
def openTable (path : List String) (name : String) (root : Fields) : Option Fields :=
  within (fun fields => match fields.lookup name with
    | none => some (fields.set name (.table .header []))
    | some (.table .parent inner) => some ((fields.erase name).set name (.table .header inner))
    | some _ => none) path root

def openListTable (path : List String) (name : String) (root : Fields) : Option Fields :=
  within (fun fields => match fields.lookup name with
    | none => some (fields.set name (.tables [] []))
    | some (.tables before last) => some (fields.set name (.tables (before ++ [last]) []))
    | some _ => none) path root

-- Puts a value at a dotted key. The table that takes it comes from dotted keys too; on the way there
-- also go tables that came into being by themselves, and the last one of a list.
def put : List String → String → Document → Fields → Option Fields
  | [], name, d, fields => if (fields.lookup name).isSome then none else some (fields.set name (.value d))
  | first :: path, name, d, fields => do
    match fields.lookup first with
    | none => return fields.set first (.table .dotted (← put path name d []))
    | some (.table .dotted inner) => return fields.set first (.table .dotted (← put path name d inner))
    | some (.table .parent inner) =>
      if path.isEmpty then none else return fields.set first (.table .parent (← put path name d inner))
    | some (.tables before last) =>
      if path.isEmpty then none else return fields.set first (.tables before (← put path name d last))
    | some _ => none

end Fields

mutual

def Tree.toDocument : Tree → Document
  | .value d => d
  | .table _ fields => .table (Fields.toDocuments fields)
  | .tables before last => .list (Fields.tablesToDocuments before ++ [.table (Fields.toDocuments last)])

def Fields.toDocuments : List (String × Tree) → List (String × Document)
  | [] => []
  | (name, t) :: rest => (name, t.toDocument) :: Fields.toDocuments rest

def Fields.tablesToDocuments : List (List (String × Tree)) → List Document
  | [] => []
  | fields :: rest => .table (Fields.toDocuments fields) :: Fields.tablesToDocuments rest

end

end GossipCluster.Toml
