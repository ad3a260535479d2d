import ClassLens.Path.Basic
/-
  File events — what the file system reports, reduced to three changes

  A rename is a deletion of the old path and a creation of the new one, as far
  as the report says which is which; a report that does not say counts as a
  modification. Reports of mere access change nothing.
-/

namespace ClassLens

/-- What happened to a file. -/
inductive Change where
  | created
  | modified
  | deleted
  deriving Repr, DecidableEq

/-- A change of one file. -/
structure FileChange where
  path : Path
  change : Change
  deriving Repr

/-- Which end of a rename a report is about. -/
inductive RenameEnd where
  | source
  | target
  | both
  | unknown
  deriving Repr, DecidableEq

/-- The kind of a report by the file system. -/
inductive NativeKind where
  | create
  | remove
  | rename (which : RenameEnd)
  | modify
  | other
  deriving Repr, DecidableEq

/-- A report by the file system. -/
structure NativeEvent where
  kind : NativeKind
  paths : List Path
  deriving Repr

/-- The changes that a report amounts to. -/
def NativeEvent.changes (e : NativeEvent) : List FileChange :=
  let each := fun change => e.paths.map fun p => ⟨p, change⟩
  match e.kind with
  | .create => each .created
  | .remove => each .deleted
  | .modify => each .modified
  | .other => []
  | .rename .source => each .deleted
  | .rename .target => each .created
  | .rename .unknown => each .modified
  | .rename .both =>
    match e.paths with
    | source :: target :: _ => [⟨source, .deleted⟩, ⟨target, .created⟩]
    | _ => []

end ClassLens
