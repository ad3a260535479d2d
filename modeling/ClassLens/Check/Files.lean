import ClassLens.Watch.Filter
/-
  Files to check — the components among files and directories

  A file is taken as given, whatever its name. Of a directory, all components
  below it are taken that no ignored glob matches. The files come in the order
  of paths, each once; of several spellings the first one found is kept.
-/

namespace ClassLens

namespace Check

/-- The components that a given path stands for. -/
def expand (disk : Disk) (c : Config) (ignored : List Glob.Pattern) (p : Path) : List Path :=
  if disk.isFile p then [p]
  else (disk.filesBelow p).filter fun f =>
    c.isComponent f && !ignored.any (·.accepts f.display)

/-- The paths of a list without those that equal the one kept before them. -/
def dropRepeatedAfter (kept : Path) : List Path → List Path
  | [] => []
  | p :: rest => if p == kept then dropRepeatedAfter kept rest else p :: dropRepeatedAfter p rest

/-- A sorted list of paths with each path once. -/
def dropRepeated : List Path → List Path
  | [] => []
  | p :: rest => p :: dropRepeatedAfter p rest

/-- The files to check for the given paths. -/
def files (disk : Disk) (c : Config) (paths : List Path) : Except Glob.GlobError (List Path) :=
  match Glob.parseAll c.ignorePatterns with
  | .error e => .error e
  | .ok ignored =>
    .ok (dropRepeated ((paths.flatMap (expand disk c ignored)).mergeSort Path.le))

end Check

end ClassLens
