import ClassLens.Table
import ClassLens.Text.Quoted
import ClassLens.Path.Basic
import ClassLens.Stylesheet.ClassName
/-
  Definitions — one place where a stylesheet defines a class

  A definition is made from checked parts: its name has to be a class name and
  its line has to be counted from one. Its declarations keep the order in which
  properties first appear, with the last value written for each.
-/

namespace ClassLens

/-- The declarations of one rule block: properties in order of first appearance. -/
abbrev Declarations := Table Text Text

/-- One place where a stylesheet defines a class. -/
structure Definition where
  name : Text
  file : Path
  line : Nat
  declarations : Declarations
  /-- The rule as written, from its selector through its closing brace. -/
  source : Text
  /-- The byte offset of the dot before the name. -/
  offset : Nat
  deriving Repr

/-- Why an entity could not be made from its parts. -/
inductive Invalid where
  | className (name : Text)
  | lineNumber (line : Nat)
  | importPath (path : Text)
  | notAbsolute (path : Path)
  deriving Repr

def Invalid.message : Invalid → Text
  | .className name => "Invalid class name: ".toList ++ Text.quoted name
  | .lineNumber line => "Line numbers are 1-based, got ".toList ++ Text.ofNat line
  | .importPath path =>
    "Import path must be same-directory (./name.css): ".toList ++ Text.quoted path
  | .notAbsolute path => "Path is not absolute: ".toList ++ path.display

namespace Definition

/-- A definition at the start of its file, if name and line are acceptable. -/
def create (name : Text) (file : Path) (line : Nat) (declarations : Declarations)
    (source : Text) : Except Invalid Definition :=
  if !ClassName.isValid name then .error (.className name)
  else if line < 1 then .error (.lineNumber line)
  else .ok ⟨name, file, line, declarations, source, 0⟩

def atOffset (d : Definition) (offset : Nat) : Definition := { d with offset }

def inFile (d : Definition) (file : Path) : Definition := { d with file }

end Definition

end ClassLens
