import ClassLens.Engine.Index
/-
  Runs — indexing a component, one access to the disk at a time

  A run takes the imports of a component one after the other. It can be
  interrupted before every access to the disk: before it asks whether a cached
  sheet is stale, before it looks a stylesheet up, and before it reads it. What
  it has read is not in the cache yet: that is a step of its own, and others may
  come in between. The component it has gathered is put into the index in one
  last step.
-/

namespace ClassLens

/-- The steps of several pieces of work, each with its own number. -/
def totalSteps {α : Type} (steps : α → Nat) : List α → Nat
  | [] => 0
  | first :: rest => steps first + totalSteps steps rest

/-- What a run does next with the stylesheet it is at. -/
inductive Phase where
  /-- Looks for the stylesheet in the cache. -/
  | consult
  /-- Asks the disk whether a cached sheet is stale. -/
  | check (cached : Sheet)
  /-- Looks the stylesheet up on the disk. -/
  | look
  /-- Reads the stylesheet, which bore a modification time when it was looked up. -/
  | fetch (modified : Stamp)
  /-- Takes up what reading gave, if the stylesheet could be read, and tells the cache. -/
  | got (found : Option Sheet)
  deriving Repr

/-- How far a run has come with the stylesheet it is at. -/
def Phase.number : Phase → Nat
  | .consult => 0
  | .check _ => 1
  | .look => 2
  | .fetch _ => 3
  | .got _ => 4

/-- An indexing run under way. -/
structure Run where
  component : Path
  imports : List Path
  /-- The imports not done with; the first one is the one the run is at. -/
  todo : List Path
  /-- The sheets gathered so far. -/
  sheets : List Sheet
  phase : Phase
  deriving Repr

namespace Run

def start (component : Path) (imports : List Path) : Run :=
  ⟨component, imports, imports, [], .consult⟩

/-- The run at the next import, with what the current one gave. -/
def next (r : Run) (rest : List Path) (found : Option Sheet) : Run :=
  { r with todo := rest, sheets := r.sheets ++ found.toList, phase := .consult }

/-- One step of a run on the disk and the index as they are now. The run is
over when none is left. -/
def step (disk : Disk) (idx : Index) (r : Run) : Index × Option Run :=
  match r.todo with
  | [] => (idx.commit (Component.build r.component r.imports r.sheets), none)
  | p :: rest =>
    match r.phase with
    | .consult =>
      if r.sheets.any (·.path == p) then (idx, some (r.next rest none))
      else match idx.cache.get? p with
        | some s => (idx, some { r with phase := .check s })
        | none => (idx, some { r with phase := .look })
    | .check s =>
      if s.isStale disk then (idx, some { r with phase := .look })
      else (idx, some (r.next rest (some s)))
    | .look =>
      match disk.stamp p with
      | .ok modified => (idx, some { r with phase := .fetch modified })
      | .error _ => (idx, some { r with phase := .got none })
    | .fetch modified =>
      match disk.read p with
      | .ok text => (idx, some { r with phase := .got (some (Sheet.build text p modified)) })
      | .error _ => (idx, some { r with phase := .got none })
    | .got (some s) => (idx.remember s, some (r.next rest (some s)))
    | .got none => (idx.forget p, some (r.next rest none))

/-- The number of steps a run may still take: five for each import, less those
done for the one it is at, and the last one. -/
def stepsLeft (r : Run) : Nat :=
  match r.todo with
  | [] => 1
  | _ :: rest => 5 * rest.length + 6 - r.phase.number

/-- Whether the next step of a run waits for the disk. -/
def asksDisk (r : Run) : Bool :=
  match r.todo, r.phase with
  | _ :: _, .check _ | _ :: _, .look | _ :: _, .fetch _ => true
  | _, _ => false

/-- At most a number of further steps of a run, without a break. -/
def drive (disk : Disk) : Nat → Index → Run → Index
  | 0, idx, _ => idx
  | n + 1, idx, r =>
    match step disk idx r with
    | (idx, some r) => drive disk n idx r
    | (idx, none) => idx

/-- All that a run still has to do, without a break. -/
def finish (disk : Disk) (idx : Index) (r : Run) : Index := drive disk r.stepsLeft idx r

end Run

end ClassLens
