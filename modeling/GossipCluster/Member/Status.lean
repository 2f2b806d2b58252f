namespace GossipCluster

inductive Status
  | joining
  | up
  | suspect
  | unreachable
  | down
  | leaving
  | exiting
  | removed
deriving DecidableEq, Repr, Inhabited

namespace Status

def all : List Status := [joining, up, suspect, unreachable, down, leaving, exiting, removed]

def name : Status → String
  | joining => "joining"
  | up => "up"
  | suspect => "suspect"
  | unreachable => "unreachable"
  | down => "down"
  | leaving => "leaving"
  | exiting => "exiting"
  | removed => "removed"

def ofName? (s : String) : Option Status := all.find? (·.name == s)

def toByte : Status → UInt8
  | joining => 0
  | up => 1
  | suspect => 2
  | unreachable => 3
  | down => 4
  | leaving => 5
  | exiting => 6
  | removed => 7

def ofByte? (b : UInt8) : Option Status := all[b.toNat]?

theorem ofByte?_toByte (s : Status) : ofByte? s.toByte = some s := by cases s <;> rfl

theorem toByte_ofByte? {b : UInt8} {s : Status} (h : ofByte? b = some s) : s.toByte = b := by
  rw [← UInt8.toNat_inj]
  rw [ofByte?] at h
  have lt : b.toNat < all.length := (List.getElem?_eq_some_iff.mp h).1
  have : all.length = 8 := rfl
  generalize b.toNat = n at h lt
  match n with
  | 0 | 1 | 2 | 3 | 4 | 5 | 6 | 7 => injection h with h; subst h; rfl

-- Only members that are up count towards a quorum.
def isHealthy (s : Status) : Bool := s = up

def isDeparting (s : Status) : Bool := s = leaving || s = exiting

end Status

end GossipCluster
