import ClassLens.Stylesheet.Definition
/-
  Import statements — one stylesheet import of a component

  A component may import stylesheets of its own directory only: the path starts
  with `./`, holds no step to a parent directory, and begins with neither of
  the alias marks `@/` and `~`.
-/

namespace ClassLens

/-- One stylesheet import of a component. -/
structure ImportStatement where
  /-- The path between the quotes. -/
  written : Text
  /-- The stylesheet it leads to. -/
  resolved : Path
  component : Path
  line : Nat
  deriving Repr

namespace ImportStatement

/-- The marks an alias path begins with. -/
def isAlias (path : Text) : Bool := Text.startsWith ['@', '/'] path || Text.startsWith ['~'] path

/-- Whether a path steps to a parent directory somewhere. -/
def stepsUp (path : Text) : Bool := Text.contains ['.', '.', '/'] path

/-- Whether a path stays in the directory of the importing component. -/
def isSameDirectory (path : Text) : Bool :=
  Text.startsWith ['.', '/'] path && !stepsUp path && !isAlias path

/-- An import statement, if its parts are acceptable. -/
def create (written : Text) (resolved component : Path) (line : Nat) :
    Except Invalid ImportStatement :=
  if !isSameDirectory written then .error (.importPath written)
  else if !resolved.isAbsolute then .error (.notAbsolute resolved)
  else if !component.isAbsolute then .error (.notAbsolute component)
  else if line < 1 then .error (.lineNumber line)
  else .ok ⟨written, resolved, component, line⟩

end ImportStatement

end ClassLens
