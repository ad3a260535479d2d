import ClassLens.Stylesheet.Sheet
/-
  Components — the classes that one component can use

  A component is seen through the stylesheets it imports. Where two of them
  define the same class, the first import wins; all definitions can still be
  listed, file after file. A component is built once and replaced as a whole.
-/

namespace ClassLens

/-- The classes that one component can use. -/
structure Component where
  path : Path
  /-- The stylesheets asked for, in import order, also those that could not be read. -/
  imports : List Path
  /-- The stylesheets that could be read, in import order. -/
  sheets : List Sheet
  /-- The winning definition of each class. -/
  classes : Table Text Definition
  deriving Repr

namespace Component

/-- The table with the classes of one more sheet behind those before. -/
def addSheet (classes : Table Text Definition) (s : Sheet) : Table Text Definition :=
  s.classes.entries.foldl (fun t (name, d) => t.insertNew name d) classes

/-- The component at `path` with the given stylesheets. -/
def build (path : Path) (imports : List Path) (sheets : List Sheet) : Component :=
  { path, imports, sheets, classes := sheets.foldl addSheet Table.empty }

/-- The winning definition of a class. -/
def definition? (c : Component) (name : Text) : Option Definition := c.classes.get? name

def hasClass (c : Component) (name : Text) : Bool := c.classes.contains name

/-- All definitions of a class: files in import order, source order in each. -/
def occurrences (c : Component) (name : Text) : List Definition :=
  c.sheets.flatMap (·.occurrencesOf name)

/-- The names of all classes, in increasing order. -/
def classNames (c : Component) : List Text := Text.sorted c.classes.keys

/-- The first sheet read from a path. -/
def sheet? (c : Component) (path : Path) : Option Sheet := c.sheets.find? (·.path == path)

/-- The media query around a definition, if the definition is of one of the sheets. -/
def mediaQueryOf (c : Component) (d : Definition) : Option Text :=
  (c.sheet? d.file).bind (·.mediaQueryOf d)

end Component

end ClassLens
