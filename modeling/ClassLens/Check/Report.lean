import ClassLens.Check.Files
import ClassLens.Editor.Unknown
import ClassLens.Json.Printer
/-
  Reports — the unknown classes of many components

  One engine serves all files. A file that cannot be read is passed over. The
  report can be written for people, one finding a line, or as data.
-/

namespace ClassLens

namespace Check

/-- The use of an unknown class; line and column count from one, columns in UTF-16 units.
Both fit into 32 bits for the texts that are meant, which have fewer than 2 to the 32 bytes. -/
structure Finding where
  file : Path
  line : Nat
  column : Nat
  className : Text
  deriving Repr

/-- What came out of a check. -/
structure Report where
  filesChecked : Nat
  findings : List Finding
  deriving Repr

namespace Report

def empty : Report := ⟨0, []⟩

/-- Whether no unknown class was found. -/
def isClean (r : Report) : Bool := r.findings.isEmpty

end Report

/-- A use of an unknown class as a finding. -/
def finding (doc : Document) (u : Usage) : Except Fault Finding := do
  let p ← doc.positionAt u.start
  return ⟨doc.path, p.line + 1, p.character + 1, u.name⟩

/-- Checks one more file, if it can be read. -/
def checkFile (disk : Disk) (attr : Text) (e : Engine) (r : Report) (file : Path) :
    Except Fault (Engine × Report) :=
  let path := Path.absoluteIn disk.cwd file
  match disk.read path with
  | .error _ => .ok (e, r)
  | .ok text => do
    let doc : Document := ⟨path, text, 0⟩
    let (e, unknown) := unknownClasses disk e doc attr
    let found ← unknown.mapM (finding doc)
    return (e, ⟨r.filesChecked + 1, r.findings ++ found⟩)

def checkFiles (disk : Disk) (attr : Text) : List Path → Engine → Report → Except Fault Report
  | [], _, r => .ok r
  | file :: rest, e, r =>
    match checkFile disk attr e r file with
    | .error fault => .error fault
    | .ok (e, r) => checkFiles disk attr rest e r

/-- Checks the components among the given paths. -/
def run (disk : Disk) (c : Config) (paths : List Path) :
    Except Glob.GlobError (Except Fault Report) :=
  match files disk c paths with
  | .error e => .error e
  | .ok found =>
    .ok (checkFiles disk c.attributeName found (Engine.new c.debounceMs) Report.empty)

/-! ## Writing -/

/-- A finding on a line of its own. -/
def Finding.toText (f : Finding) : Text :=
  f.file.display ++ ':' :: Text.ofNat f.line ++ ':' :: Text.ofNat f.column ++
    ": unknown class '".toList ++ f.className ++ ['\'', '\n']

def Report.toText (r : Report) : Text :=
  r.findings.flatMap Finding.toText ++ Text.ofNat r.filesChecked ++
    " file(s) checked, ".toList ++ Text.ofNat r.findings.length ++
    " unknown class usage(s)\n".toList

def Finding.toJson (f : Finding) : Json :=
  Json.ofFields [("file", .str f.file.display), ("line", .ofNat f.line),
    ("column", .ofNat f.column), ("class_name", .str f.className)]

def Report.toJson (r : Report) : Json :=
  Json.ofFields [("files_checked", .ofNat r.filesChecked),
    ("findings", .arr (r.findings.map Finding.toJson))]

/-- How a report is written. -/
inductive Format where
  | text
  | json
  deriving Repr, DecidableEq

def Report.write (r : Report) : Format → Text
  | .text => r.toText
  | .json => r.toJson.pretty ++ ['\n']

end Check

end ClassLens
