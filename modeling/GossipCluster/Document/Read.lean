import GossipCluster.Document.Basic
import GossipCluster.Duration.Human
import GossipCluster.Table

namespace GossipCluster.Document

open Text (Fault)

-- What documents of a format may hold besides plain fields and names: items beyond the last field of
-- a section that is given as a list, and the payload of a choice that is given as a table.
structure Format where
  spareItems : Bool
  noPayload  : Document → Bool

def toml : Format where
  spareItems := true
  noPayload
    | .list [] | .table [] => true
    | _ => false

def json : Format where
  spareItems := false
  noPayload
    | .null => true
    | _ => false

-- Reading a value of one type from a document.
abbrev Read (α : Type) := Format → Document → Except Fault α

namespace Read

def bool : Read Bool
  | _, .bool b => .ok b
  | _, _ => .error .malformed

def string : Read String
  | _, .string s => .ok s
  | _, _ => .error .malformed

def natural (limit : Nat) : Read Nat
  | _, .integer n => if 0 ≤ n ∧ n < limit then .ok n.toNat else .error .malformed
  | _, _ => .error .malformed

def size : Read Nat := natural UInt64.size

def burst : Read Nat := natural UInt32.size

def version : Read UInt16 := fun format d => UInt16.ofNat <$> natural UInt16.size format d

def word : Read UInt64 := fun format d => UInt64.ofNat <$> natural UInt64.size format d

def time : Read Int64
  | _, .integer n =>
    if Int64.minValue.toInt ≤ n ∧ n ≤ Int64.maxValue.toInt then .ok (.ofInt n) else .error .malformed
  | _, _ => .error .malformed

def float : Read Float
  | _, .float x => .ok x
  | _, .integer n => .ok (Float.ofInt n)
  | _, _ => .error .malformed

def duration : Read Duration
  | _, .string s => Duration.ofHuman s
  | _, _ => .error .malformed

def optional (read : Read α) : Read (Option α)
  | _, .null => .ok none
  | format, d => some <$> read format d

def list (read : Read α) : Read (List α)
  | format, .list items => items.mapM (read format)
  | _, _ => .error .malformed

def dict (read : Read α) : Read (Dict α)
  | format, .table fields => do
    return .ofList (← fields.mapM fun (name, d) => return (name, ← read format d))
  | _, _ => .error .malformed

def choice (ofName? : String → Option α) : Read α
  | _, .string s => Fault.need (ofName? s)
  | format, .table [(name, payload)] =>
    if format.noPayload payload then Fault.need (ofName? name) else .error .malformed
  | _, _ => .error .malformed

end Read

-- What the parts of a section come to. Of several faults the one counts that stands first.
inductive Parts (α : Type)
  | value (a : α)
  | fault (place : Nat) (f : Fault)

namespace Parts

def seq : Parts (α → β) → Parts α → Parts β
  | .value f, .value a => .value (f a)
  | .value _, .fault q g => .fault q g
  | .fault p f, .value _ => .fault p f
  | .fault p f, .fault q g => if p ≤ q then .fault p f else .fault q g

instance : Applicative Parts where
  pure := .value
  seq f a := f.seq (a ())

def ofExcept (place : Nat) : Except Fault α → Parts α
  | .ok a => .value a
  | .error f => .fault place f

def toExcept : Parts α → Except Fault α
  | .value a => .ok a
  | .fault _ f => .error f

end Parts

-- A section given by the names of its fields, or by its fields in order.
structure Fields where
  format : Format
  names  : List (String × Document)
  items  : List Document

namespace Fields

def ofDocument? (format : Format) : Document → Option Fields
  | .table names => some ⟨format, names, []⟩
  | .list items => some ⟨format, [], items⟩
  | _ => none

-- A field and its place.
def find? (f : Fields) (index : Nat) (name : String) : Option (Nat × Document) :=
  (f.names.zipIdx.find? (·.1.1 == name)).map (fun ((_, d), place) => (place, d)) <|>
    f.items[index]?.map (index, ·)

-- That a field is missing shows only at the end.
def need (f : Fields) (index : Nat) (name : String) (read : Read α) : Parts α :=
  match f.find? index name with
  | some (place, d) => .ofExcept place (read f.format d)
  | none => .fault (f.names.length + f.items.length) .malformed

def get (f : Fields) (index : Nat) (name : String) (read : Read α) (default : α) : Parts α :=
  match f.find? index name with
  | some (place, d) => .ofExcept place (read f.format d)
  | none => .value default

end Fields

-- Reads a section with so many fields.
def Read.record (count : Nat) (parts : Fields → Parts α) : Read α := fun format d => do
  let fields ← Fault.need (Fields.ofDocument? format d)
  let a ← (parts fields).toExcept
  if count < fields.items.length && !format.spareItems then throw .malformed
  return a

end GossipCluster.Document
