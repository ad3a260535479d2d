import ClassLens.Engine.Basic
import ClassLens.Watch.Filter
/-
  Watching — file changes on their way into the engine

  A created or modified file counts once it has been quiet for a window. A
  deletion counts at once: that of a stylesheet also drops the update that may
  be pending for it, that of a component only forgets the component.
-/

namespace ClassLens

/-- A watch on a workspace. -/
structure Watch where
  filter : Filter
  /-- Whether the file system reports changes to us directly. -/
  isWatching : Bool
  /-- The directory that is or was watched. -/
  root : Option Path
  deriving Repr

/-- Why a workspace cannot be watched. -/
inductive WatchError where
  | glob (cause : Glob.GlobError)
  | noRoot
  deriving Repr

def WatchError.message : WatchError → Text
  | .glob cause => cause.message
  | .noRoot => "Failed to start watching workspace".toList

namespace Watch

/-- A watch that only passes on what others report. -/
def passive (c : Config) : Except WatchError Watch :=
  match Filter.ofConfig c with
  | .ok filter => .ok ⟨filter, false, none⟩
  | .error e => .error (.glob e)

/-- A watch on all files below a directory. -/
def onRoot (disk : Disk) (c : Config) (root : Path) : Except WatchError Watch :=
  match passive c with
  | .error e => .error e
  | .ok w => if disk.exists? root then .ok { w with isWatching := true, root := some root }
    else .error .noRoot

/-- The watch once it is given up. -/
def dispose (w : Watch) : Watch := { w with isWatching := false }

def dispatch (w : Watch) (disk : Disk) (e : Engine) (c : FileChange) : Engine :=
  match w.filter.classify disk c, c.change with
  | none, _ => e
  | some .stylesheet, .deleted => (e.cancelSheet c.path).removeSheet c.path
  | some .stylesheet, _ => e.scheduleSheet c.path
  | some .component, .deleted => e.dropComponent c.path
  | some .component, _ => e.scheduleComponent c.path

/-- Passes several changes on, in order. -/
def dispatchAll (w : Watch) (disk : Disk) (e : Engine) (cs : List FileChange) : Engine :=
  cs.foldl (w.dispatch disk) e

end Watch

end ClassLens
