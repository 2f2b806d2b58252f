import GossipCluster.Duration.Basic
import GossipCluster.Table

namespace GossipCluster

structure ManualTask (α : Type) where
  work     : α
  interval : Duration
  repeats  : Bool
deriving Repr

-- Work that is done only when it is fired.
structure ManualSchedule (α : Type) where
  tasks : Dict (ManualTask α) := ∅
deriving Repr

namespace ManualSchedule

variable {α : Type}

def once (s : ManualSchedule α) (key : String) (delay : Duration) (work : α) : ManualSchedule α :=
  ⟨s.tasks.put key ⟨work, delay, false⟩⟩

def every (s : ManualSchedule α) (key : String) (interval : Duration) (work : α) :
    ManualSchedule α :=
  ⟨s.tasks.put key ⟨work, interval, true⟩⟩

def isScheduled (s : ManualSchedule α) (key : String) : Bool := s.tasks.contains key

def cancel (s : ManualSchedule α) (key : String) : ManualSchedule α := ⟨s.tasks.erase key⟩

-- A task that does not repeat is gone after it has been fired.
def fire (s : ManualSchedule α) (key : String) : Option α × ManualSchedule α :=
  match s.tasks.get? key with
  | some t => (some t.work, if t.repeats then s else s.cancel key)
  | none => (none, s)

def keys (s : ManualSchedule α) : List String := s.tasks.keys

def interval? (s : ManualSchedule α) (key : String) : Option Duration :=
  (s.tasks.get? key).map (·.interval)

end ManualSchedule

-- The most milliseconds that a timed task waits, and that pass at once.
def longestWait : Nat := 100000000000

-- When a task is done next, and how long it waits for that, from when it was set up or last done.
structure TimedTask (α : Type) where
  key     : String
  work    : α
  due     : Option Nat
  wait    : Nat
  repeats : Bool
deriving Repr

-- Work that is done as time passes, in whole milliseconds; the task scheduled last stands last.
structure TimedSchedule (α : Type) where
  now   : Nat := 0
  tasks : List (TimedTask α) := []
deriving Repr

namespace TimedTask

variable {α : Type}

-- All times up to `limit` at which a task is done.
def times (t : TimedTask α) (limit : Nat) : List Nat :=
  match t.due with
  | none => []
  | some due =>
    if limit < due then []
    else if t.repeats then (List.range ((limit - due) / t.wait + 1)).map (due + · * t.wait)
    else [due]

def after (t : TimedTask α) (limit : Nat) : TimedTask α :=
  let next := t.due.bind fun due =>
    if limit < due then some due
    else if t.repeats then some (due + ((limit - due) / t.wait + 1) * t.wait)
    else none
  { t with due := next }

end TimedTask

namespace TimedSchedule

variable {α : Type}

def find? (s : TimedSchedule α) (key : String) : Option (TimedTask α) :=
  s.tasks.find? (·.key == key)

-- A task stays known, though not scheduled, when it is over.
def isScheduled (s : TimedSchedule α) (key : String) : Bool := (s.find? key).any (·.due.isSome)

def isKnown (s : TimedSchedule α) (key : String) : Bool := (s.find? key).isSome

def cancel (s : TimedSchedule α) (key : String) : TimedSchedule α :=
  { s with tasks := s.tasks.filter (·.key != key) }

def once (s : TimedSchedule α) (key : String) (delay : Nat) (work : α) : TimedSchedule α :=
  let delay := min delay longestWait
  { s with tasks := (s.cancel key).tasks ++ [⟨key, work, some (s.now + delay), delay, false⟩] }

-- Without an interval the work is never done.
def every (s : TimedSchedule α) (key : String) (interval : Nat) (work : α) : TimedSchedule α :=
  let interval := min interval longestWait
  let due := if interval = 0 then none else some (s.now + interval)
  { s with tasks := (s.cancel key).tasks ++ [⟨key, work, due, interval, true⟩] }

-- A piece of work, the time at which it is done, and the time since which it has waited for that.
structure Occasion (α : Type) where
  time  : Nat
  since : Nat
  work  : α

-- Of what is done at the same time, that which has waited longer comes first.
def Occasion.notAfter (a b : Occasion α) : Bool :=
  a.time < b.time || (a.time == b.time && a.since ≤ b.since)

def occasions (s : TimedSchedule α) (limit : Nat) : List (Occasion α) :=
  s.tasks.flatMap fun t => (t.times limit).map fun time => ⟨time, time - t.wait, t.work⟩

-- The work done while time passes, in its order.
def advance (s : TimedSchedule α) (span : Nat) : List α × TimedSchedule α :=
  let now := s.now + min span longestWait
  (((s.occasions now).mergeSort Occasion.notAfter).map (·.work), ⟨now, s.tasks.map (·.after now)⟩)

end TimedSchedule

end GossipCluster
