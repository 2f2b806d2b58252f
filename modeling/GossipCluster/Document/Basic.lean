namespace GossipCluster

inductive Document
  | null
  | bool (b : Bool)
  | integer (n : Int)
  | float (x : Float)
  | string (s : String)
  | list (items : List Document)
  | table (fields : List (String × Document))
deriving Repr, Inhabited

namespace Document

def optional (f : α → Document) : Option α → Document
  | some a => f a
  | none => null

def get? (d : Document) (name : String) : Option Document :=
  match d with
  | table fields => fields.lookup name
  | _ => none

mutual

-- Puts the fields of a second document over those of the first, in the order of their names, and any
-- other value in its place.
def override : Document → Document → Document
  | table fields, table changes =>
    let added := changes.filter fun (name, _) => (fields.lookup name).isNone
    table ((overrideFields fields changes ++ added).mergeSort (·.1 ≤ ·.1))
  | _, changes => changes

def overrideFields : List (String × Document) → List (String × Document) → List (String × Document)
  | [], _ => []
  | (name, d) :: rest, changes =>
    let d := match changes.lookup name with
      | some e => override d e
      | none => d
    (name, d) :: overrideFields rest changes

end

mutual

-- Whether all texts besides names have a property.
def everyString (p : String → Bool) : Document → Bool
  | string s => p s
  | list items => everyItem p items
  | table fields => everyField p fields
  | _ => true

def everyItem (p : String → Bool) : List Document → Bool
  | [] => true
  | d :: rest => everyString p d && everyItem p rest

def everyField (p : String → Bool) : List (String × Document) → Bool
  | [] => true
  | (_, d) :: rest => everyString p d && everyField p rest

end

end Document

end GossipCluster
