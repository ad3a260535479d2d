import ClassLens.Engine.Run
/-
  Tasks — updates that run side by side

  An update that falls due becomes a task of its own. When it is its turn, it
  goes on until it has to wait for the disk, and then another task has its turn.
  So tasks that began at one moment work on the index in between each other's
  steps.

  What this holds:
    1. `Engine.Update` and `Task`, with `step`, one step of a task;
    2. `turn`, what a task does before others go on, and `turns`, one turn of
       each;
    3. `complete`, turns until no task is left.
-/

namespace ClassLens

/-- A pending update. -/
inductive Engine.Update where
  | sheet (path : Path)
  | component (path : Path)
  deriving Repr, BEq

/-- Work that can be interrupted. -/
inductive Task where
  /-- A stylesheet changed; nothing is done about it yet. -/
  | update (sheet : Path)
  /-- The text of a component changed; nothing is done about it yet. -/
  | drop (component : Path)
  /-- The run under way, and the components to index behind it. -/
  | build (current : Option Run) (queue : List (Path × List Path))
  deriving Repr

namespace Task

def index (component : Path) (imports : List Path) : Task :=
  .build (some (Run.start component imports)) []

/-- The task that an update falling due begins. -/
def ofUpdate : Engine.Update → Task
  | .sheet path => .update path
  | .component path => .drop path

/-- One step of a task on the disk and the index as they are now. The task is
over when none is left. -/
def step (disk : Disk) (idx : Index) : Task → Index × Option Task
  | .update sheet =>
    (idx.forget sheet, some (.build none ((idx.forget sheet).rebuilds sheet)))
  | .drop component => (idx.dropComponent component, none)
  | .build (some r) queue =>
    ((Run.step disk idx r).1, some (.build (Run.step disk idx r).2 queue))
  | .build none ((component, imports) :: queue) =>
    (idx, some (.build (some (Run.start component imports)) queue))
  | .build none [] => (idx, none)

/-! ## Turns -/

/-- Whether the next step of a task waits for the disk. -/
def asksDisk : Task → Bool
  | .build (some r) _ => r.asksDisk
  | _ => false

/-- The steps of a task up to where it waits for the disk, at most a number of them. -/
def toDisk (disk : Disk) : Nat → Index → Task → Index × Option Task
  | 0, idx, t => (idx, some t)
  | n + 1, idx, t =>
    if t.asksDisk then (idx, some t)
    else match t.step disk idx with
      | (idx, some t) => toDisk disk n idx t
      | (idx, none) => (idx, none)

/-- The steps that some components to index may take: the start and the run of each. -/
def queueSteps (queue : List (Path × List Path)) : Nat :=
  totalSteps (fun job => (Run.start job.1 job.2).stepsLeft + 1) queue

/-- The number of steps that a task may still take, for an update once it has begun. -/
def stepsLeft : Task → Nat
  | .build current queue => (current.map Run.stepsLeft).getD 0 + queueSteps queue + 1
  | _ => 0

/-- One turn of a task: the step that it waited to take, and all up to where it
waits for the disk again. -/
def turn (disk : Disk) (idx : Index) (t : Task) : Index × Option Task :=
  match t.step disk idx with
  | (idx, some t) => toDisk disk t.stepsLeft idx t
  | (idx, none) => (idx, none)

def turns (disk : Disk) : Index → List Task → Index × List Task
  | idx, [] => (idx, [])
  | idx, t :: rest =>
    let (idx, left) := t.turn disk idx
    let (idx, others) := turns disk idx rest
    (idx, left.toList ++ others)

/-- A number of turns of each task. -/
def rounds (disk : Disk) : Nat → Index → List Task → Index × List Task
  | 0, idx, tasks => (idx, tasks)
  | n + 1, idx, tasks =>
    let (idx, tasks) := turns disk idx tasks
    rounds disk n idx tasks

/-- Turns until no task is left. The first of them begins all updates. -/
def complete (disk : Disk) (idx : Index) (tasks : List Task) : Index :=
  let (idx, begun) := turns disk idx tasks
  (rounds disk (totalSteps stepsLeft begun) idx begun).1

end Task

end ClassLens
