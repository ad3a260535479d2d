import ClassLens.Disk
import ClassLens.Fault
import ClassLens.Stylesheet.Extract
import ClassLens.Stylesheet.Media
/-
  Sheets — a stylesheet file as read at one moment

  A sheet holds the classes of a stylesheet, stamped with its path, together
  with the text they came from and the file's modification time. A sheet is
  stale once the file bears another time or cannot be found.
-/

namespace ClassLens

/-- A stylesheet file as read at one moment. -/
structure Sheet where
  path : Path
  modified : Stamp
  classes : Table Text Definition
  occurrences : Table Text (List Definition)
  content : Text
  deriving Repr

/-- Why a stylesheet could not be read. -/
inductive SheetError where
  | notFound (path : Path)
  | unreadable (path : Path) (cause : DiskError)
  deriving Repr

/-- The wording of a failure to read. -/
def SheetError.message : SheetError → Text
  | .notFound path => "CSS file not found: ".toList ++ path.display
  | .unreadable path cause =>
    "Failed to read CSS file ".toList ++ path.display ++ ": ".toList ++ cause.message

namespace Sheet

/-- The sheet of a text that was read from `path` when it bore the time `modified`. -/
def build (content : Text) (path : Path) (modified : Stamp) : Sheet :=
  let classes := Stylesheet.extract content
  { path, modified, content
    classes := ⟨classes.first.entries.map fun (name, d) => (name, d.inFile path)⟩
    occurrences := ⟨classes.all.entries.map fun (name, ds) => (name, ds.map (·.inFile path))⟩ }

/-- The sheet of a text held in memory, as if `path` held it. -/
def ofContent (disk : Disk) (content : Text) (path : Path) : Sheet :=
  build content path (match disk.stamp path with
    | .ok stamp => stamp
    | .error _ => .unborne)

/-- What the failure to look up a stylesheet amounts to. -/
def lookupError (path : Path) : DiskError → SheetError
  | .notFound => .notFound path
  | cause => .unreadable path cause

def read (disk : Disk) (path : Path) : Except SheetError Sheet :=
  match disk.stamp path with
  | .error cause => .error (lookupError path cause)
  | .ok stamp =>
    match disk.read path with
    | .error cause => .error (.unreadable path cause)
    | .ok content => .ok (build content path stamp)

/-- Whether the file no longer bears the time it was read at. -/
def isStale (disk : Disk) (s : Sheet) : Bool :=
  match disk.stamp s.path with
  | .ok stamp => s.modified ≠ stamp
  | .error _ => true

/-- The definitions of a class, in source order. -/
def occurrencesOf (s : Sheet) (name : Text) : List Definition :=
  (s.occurrences.get? name).getD []

def mediaQueryOf (s : Sheet) (d : Definition) : Option Text :=
  Stylesheet.mediaQueryAt (Stylesheet.stripComments s.content) d.offset

/-- The UTF-16 column of a definition of this sheet on its line. -/
def columnOf (s : Sheet) (d : Definition) : Except Fault Nat :=
  match Text.cut? (min d.offset (Text.bytes s.content)) s.content with
  | none => .error .insideCharacter
  | some (before, _) => .ok (Text.units (before.reverse.takeWhile (· ≠ '\n')))

end Sheet

end ClassLens
