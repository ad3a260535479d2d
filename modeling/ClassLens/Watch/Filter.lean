import ClassLens.Config
import ClassLens.Glob
import ClassLens.Watch.Event
/-
  Filtering — which files matter

  A path matters by its extension, stylesheets before components, unless one of
  the ignored globs matches it as spelled. What was created or modified has to
  be a file; what was deleted no longer can be.
-/

namespace ClassLens

/-- What a file is to the index. -/
inductive FileKind where
  | stylesheet
  | component
  deriving Repr, DecidableEq

/-- The rules by which files matter. -/
structure Filter where
  cssExtensions : List Text
  componentExtensions : List Text
  ignored : List Glob.Pattern
  deriving Repr

namespace Filter

def ofConfig (c : Config) : Except Glob.GlobError Filter :=
  match Glob.parseAll c.ignorePatterns with
  | .ok ignored => .ok ⟨c.cssExtensions, c.componentExtensions, ignored⟩
  | .error e => .error e

def kindOfExtension (f : Filter) (ext : Text) : Option FileKind :=
  if f.cssExtensions.contains ext then some .stylesheet
  else if f.componentExtensions.contains ext then some .component
  else none

def isIgnored (f : Filter) (p : Path) : Bool := f.ignored.any (·.accepts p.display)

/-- What a path is to the index, going by its spelling only. -/
def kindOfPath (f : Filter) (p : Path) : Option FileKind :=
  match p.extension?.bind f.kindOfExtension with
  | none => none
  | some kind => if f.isIgnored p then none else some kind

/-- What a changed path is to the index, or `none` when the change does not matter. -/
def classify (f : Filter) (disk : Disk) (c : FileChange) : Option FileKind :=
  if c.change ≠ .deleted ∧ !disk.isFile c.path then none else f.kindOfPath c.path

/-- Globs for an editor that watches files on our behalf. -/
def watchGlobs (f : Filter) : List Text :=
  (f.cssExtensions ++ f.componentExtensions).map ("**/*.".toList ++ ·)

end Filter

end ClassLens
