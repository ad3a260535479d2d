import ClassLens.Disk
import ClassLens.Watch.Event
/-
  Polling — the changes between two readings of a disk

  A file that only the later reading has was created, one that only the earlier
  reading has was deleted, and one whose modification time differs was
  modified.
-/

namespace ClassLens

namespace Disk

def pathOf (place : Location) : Path := ⟨place.flatMap (Path.slash :: ·)⟩

/-- The modification time of the file at a location. -/
def fileStamp? (d : Disk) (place : Location) : Option Int :=
  match d.nodes.get? place with
  | some (.file _ modified) => some modified
  | _ => none

/-- What happened to the file at a location between two readings. -/
def changeAt? (old new : Disk) (place : Location) : Option Change :=
  match old.fileStamp? place, new.fileStamp? place with
  | none, none => none
  | none, some _ => some .created
  | some _, none => some .deleted
  | some a, some b => if a = b then none else some .modified

/-- The changes of files between two readings: what vanished first, then the rest. -/
def changesTo (old new : Disk) : List FileChange :=
  let gone := old.nodes.keys.filter fun place => (new.fileStamp? place).isNone
  (gone ++ new.nodes.keys).filterMap fun place =>
    (changeAt? old new place).map fun change => ⟨pathOf place, change⟩

end Disk

end ClassLens
