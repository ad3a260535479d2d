import ClassLens.Disk
import ClassLens.Path.Normal
import ClassLens.Import.Statement
import ClassLens.Import.Scan
/-
  Resolving imports — the stylesheets that a component really imports

  An import resolves to the file it names in the component's directory. What
  leads elsewhere or to no file is left out without complaint.
-/

namespace ClassLens

/-- The file that an import leads to from a component. -/
def resolveImport (disk : Disk) (component : Path) (written : Text) : Option Path :=
  if !ImportStatement.isSameDirectory written then none
  else
    match component.parent? with
    | none => none
    | some directory =>
      let resolved := (directory.joinText (written.drop 2)).normalize
      if disk.isFile resolved then some resolved else none

/-- Whether an import is of a kind that is never followed. -/
def isUnsupported (written : Text) : Bool :=
  ImportStatement.stepsUp written || ImportStatement.isAlias written

/-- The imports of a component that lead to stylesheets, in order. -/
def importStatements (disk : Disk) (text : Text) (component : Path) : List ImportStatement :=
  (ImportScan.scan text).filterMap fun found =>
    if isUnsupported found.path then none
    else
      match resolveImport disk component found.path with
      | none => none
      | some resolved =>
        match ImportStatement.create found.path resolved component found.line with
        | .ok statement => some statement
        | .error _ => none

/-- The paths without those that an earlier one equals. -/
def distinctPaths (paths : List Path) : List Path :=
  paths.foldl (fun seen p => if seen.any (· == p) then seen else seen ++ [p]) []

/-- The stylesheets that a component imports, each once, in order of first import. -/
def importPaths (disk : Disk) (text : Text) (component : Path) : List Path :=
  distinctPaths ((importStatements disk text component).map (·.resolved))

end ClassLens
