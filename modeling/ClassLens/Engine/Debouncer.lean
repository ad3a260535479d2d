import ClassLens.Table
import ClassLens.Path.Basic
/-
  Debouncing — one action after a burst of events

  Every event for a path starts a task that sleeps for a window and then runs
  an action. A table says which task is in charge of each path, by a number that
  no other task has. An event makes its own task the one in charge and aborts
  the one before, so a burst of events comes down to one action, a full window
  after the last of them. An abort can come too late, when its task is awake
  already and about to ask the table; such a task finds that it is not in charge
  any more and stands down.

  Time is a number of milliseconds that only `advance` moves. Tasks wake in the
  order of their deadlines.
-/

namespace ClassLens

/-- A task that sleeps until its action is due. -/
structure Sleeper (α : Type) where
  /-- The number of the task. -/
  generation : Nat
  path : Path
  /-- When the task wakes; `none` means never. -/
  deadline : Option Nat
  action : α
  deriving Repr

/-- The deadline of a task that is due at a time. -/
def Sleeper.due? {α : Type} (time : Nat) (s : Sleeper α) : Option Nat :=
  s.deadline.bind fun deadline => if deadline ≤ time then some deadline else none

/-- Pending actions by path, and the tasks that run them. -/
structure Debouncer (α : Type) where
  now : Nat
  /-- The length of the window, in milliseconds. -/
  window : Nat
  /-- The longest time that the clock lets a task sleep. After more it never wakes. -/
  reach : Nat
  nextGeneration : Nat
  /-- The number of the task in charge of each path. -/
  pending : Table Path Nat
  /-- The tasks that have not woken, in the order they began. -/
  tasks : List (Sleeper α)
  deriving Repr

namespace Debouncer

variable {α : Type}

/-- The reach of the clock that the program runs on: thirty years, in milliseconds. -/
def clockReach : Nat := 30 * 365 * 24 * 60 * 60 * 1000

/-- No pending action, at time zero. -/
def new (window : Nat) (reach : Nat := clockReach) : Debouncer α :=
  ⟨0, window, reach, 0, Table.empty, []⟩

/-- When an action scheduled now runs. -/
def deadline (d : Debouncer α) : Option Nat :=
  if d.window ≤ d.reach then some (d.now + d.window) else none

/-- No abort comes too late. -/
def inTime (_ : Nat) : Bool := false

/-- Aborts a task. The task goes on sleeping if the abort comes too late for it. -/
def abort (late : Nat → Bool) (d : Debouncer α) (generation : Nat) : Debouncer α :=
  if late generation then d
  else { d with tasks := d.tasks.filter fun s => !(s.generation == generation) }

def schedule (d : Debouncer α) (path : Path) (action : α) (late : Nat → Bool := inTime) :
    Debouncer α :=
  let begun := { d with
    nextGeneration := d.nextGeneration + 1
    pending := d.pending.insert path d.nextGeneration
    tasks := d.tasks ++ [⟨d.nextGeneration, path, d.deadline, action⟩] }
  match d.pending.get? path with
  | some previous => begun.abort late previous
  | none => begun

def isPending (d : Debouncer α) (path : Path) : Bool := d.pending.contains path

/-- Takes out the pending action of a path; the answer is whether there was one. -/
def withdraw (d : Debouncer α) (path : Path) (late : Nat → Bool := inTime) :
    Debouncer α × Bool :=
  match d.pending.get? path with
  | some generation => (({ d with pending := d.pending.erase path }).abort late generation, true)
  | none => (d, false)

/-- Drops the pending action of a path. -/
def cancel (d : Debouncer α) (path : Path) (late : Nat → Bool := inTime) : Debouncer α :=
  (d.withdraw path late).1

/-- Drops all pending actions. -/
def cancelAll (d : Debouncer α) (late : Nat → Bool := inTime) : Debouncer α :=
  d.pending.values.foldl (abort late) { d with pending := Table.empty }

/-- Sets the length of the window for actions scheduled from now on. -/
def setWindow (d : Debouncer α) (window : Nat) : Debouncer α := { d with window }

def pendingCount (d : Debouncer α) : Nat := d.pending.size

/-! ## Time -/

/-- Whether a task is the one in charge of its path. -/
def inCharge (d : Debouncer α) (s : Sleeper α) : Bool := d.pending.get? s.path == some s.generation

/-- Tasks wake one after the other. Each runs its action if it is in charge of
its path, which is free then, and stands down otherwise. -/
def wake (d : Debouncer α) : List (Nat × Sleeper α) → Debouncer α × List (Nat × α)
  | [] => (d, [])
  | (time, s) :: rest =>
    if d.inCharge s then
      let (d, ran) := wake { d with pending := d.pending.erase s.path } rest
      (d, (time, s.action) :: ran)
    else wake d rest

/-- The tasks due at a time, each with its deadline, in order of deadlines. -/
def dueTasks (d : Debouncer α) (time : Nat) : List (Nat × Sleeper α) :=
  (d.tasks.filterMap fun s => (s.due? time).map fun deadline => (deadline, s)).mergeSort
    fun a b => a.1 ≤ b.1

/-- Moves time on by some milliseconds: the actions that run meanwhile, each with the time it
runs at. -/
def advance (d : Debouncer α) (ms : Nat) : Debouncer α × List (Nat × α) :=
  let time := d.now + ms
  let asleep := d.tasks.filter fun s => (s.due? time).isNone
  wake { d with now := time, tasks := asleep } (d.dueTasks time)

end Debouncer

end ClassLens
