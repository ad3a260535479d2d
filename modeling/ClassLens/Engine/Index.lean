import ClassLens.Component.Basic
/-
  The index — components, sheets, and who depends on what

  The index holds three tables: the components, the sheets read so far, and for
  every stylesheet the components that import it. The last one is the inverse
  of the import lists: a component is listed under exactly the stylesheets it
  imports, also under those that could not be read, so that mending such a file
  reaches it.

  What this holds:
    1. `Index`, with `link`, `unlink`, `commit` and `dropComponent`;
    2. `consult`, one stylesheet through the cache, and `indexComponent`;
    3. `updateSheet`, `removeSheet` and `dropComponent`, what changes of files
       amount to;
    4. `isConsistent`, whether the tables agree.
-/

namespace ClassLens

/-- Components, sheets and dependents. -/
structure Index where
  components : Table Path Component
  /-- The sheets read so far, shared by all components. -/
  cache : Table Path Sheet
  /-- For every imported stylesheet, the components that import it. -/
  dependents : Table Path (List Path)
  deriving Repr

namespace Index

def empty : Index := ⟨Table.empty, Table.empty, Table.empty⟩

/-! ## Dependents -/

def addPath (paths : List Path) (p : Path) : List Path :=
  if paths.any (· == p) then paths else paths ++ [p]

/-- A set of paths without one of them; `none` when nothing is left. -/
def dropPath (p : Path) (paths : List Path) : Option (List Path) :=
  match paths.filter (fun q => !(q == p)) with
  | [] => none
  | rest => some rest

/-- The dependents without one component under the given stylesheets. -/
def unlinkFrom (component : Path) (sheets : List Path) (t : Table Path (List Path)) :
    Table Path (List Path) :=
  sheets.foldl (fun t sheet => t.update sheet (dropPath component)) t

/-- The dependents with one component under the given stylesheets. -/
def linkTo (component : Path) (sheets : List Path) (t : Table Path (List Path)) :
    Table Path (List Path) :=
  sheets.foldl (fun t sheet => t.insert sheet (addPath ((t.get? sheet).getD []) component)) t

/-- The index with the component at a path taken out of all dependents. -/
def unlink (idx : Index) (component : Path) : Index :=
  match idx.components.get? component with
  | none => idx
  | some previous =>
    { idx with dependents := unlinkFrom component previous.imports idx.dependents }

/-- The index with a component among the dependents of all it imports. -/
def link (idx : Index) (c : Component) : Index :=
  { idx with dependents := linkTo c.path c.imports idx.dependents }

/-- Puts a component in the place of what was known about its path. -/
def commit (idx : Index) (c : Component) : Index :=
  let linked := (idx.unlink c.path).link c
  { linked with components := linked.components.insert c.path c }

def dropComponent (idx : Index) (component : Path) : Index :=
  let unlinked := idx.unlink component
  { unlinked with components := unlinked.components.erase component }

/-! ## Reading through the cache -/

def remember (idx : Index) (s : Sheet) : Index := { idx with cache := idx.cache.insert s.path s }

/-- The index with nothing in the cache for a path. -/
def forget (idx : Index) (path : Path) : Index := { idx with cache := idx.cache.erase path }

/-- Reads a stylesheet anew. What cannot be read leaves the cache. -/
def reload (disk : Disk) (idx : Index) (path : Path) : Index × Option Sheet :=
  match Sheet.read disk path with
  | .ok s => (idx.remember s, some s)
  | .error _ => (idx.forget path, none)

/-- The sheet of a path: the cached one unless its file changed since. -/
def consult (disk : Disk) (idx : Index) (path : Path) : Index × Option Sheet :=
  match idx.cache.get? path with
  | some s => if s.isStale disk then reload disk idx path else (idx, some s)
  | none => reload disk idx path

/-- The sheets of the given paths in order, behind those read already. A path
that one of them was read from is passed over. -/
def consultAll (disk : Disk) : List Path → Index → List Sheet → Index × List Sheet
  | [], idx, sheets => (idx, sheets)
  | p :: rest, idx, sheets =>
    if sheets.any (·.path == p) then consultAll disk rest idx sheets
    else
      match consult disk idx p with
      | (idx, some s) => consultAll disk rest idx (sheets ++ [s])
      | (idx, none) => consultAll disk rest idx sheets

/-- Builds the component at a path from the stylesheets it imports. -/
def indexComponent (disk : Disk) (idx : Index) (component : Path) (imports : List Path) : Index :=
  let (idx, sheets) := consultAll disk imports idx []
  idx.commit (Component.build component imports sheets)

/-! ## Changes of files -/

/-- The components that import a stylesheet. -/
def dependentsOf (idx : Index) (sheet : Path) : List Path := (idx.dependents.get? sheet).getD []

/-- What a changed stylesheet makes to be indexed anew: its dependents with their imports. -/
def rebuilds (idx : Index) (sheet : Path) : List (Path × List Path) :=
  (idx.dependentsOf sheet).filterMap fun component =>
    (idx.components.get? component).map fun c => (component, c.imports)

/-- A stylesheet changed: it is read anew, and all that import it are built anew. -/
def updateSheet (disk : Disk) (idx : Index) (sheet : Path) : Index :=
  let idx := idx.forget sheet
  (idx.rebuilds sheet).foldl
    (fun idx (component, imports) => indexComponent disk idx component imports) idx

/-- A stylesheet is gone: all that imported it are forgotten. -/
def removeSheet (idx : Index) (sheet : Path) : Index :=
  let gone := idx.dependentsOf sheet
  let idx := idx.forget sheet
  let idx := { idx with dependents := idx.dependents.erase sheet }
  gone.foldl dropComponent idx

/-! ## Agreement of the tables -/

/-- Whether every component is listed under all that it imports. -/
def forwardConsistent (idx : Index) : Bool :=
  idx.components.entries.all fun (path, c) =>
    c.imports.all fun sheet =>
      match idx.dependents.get? sheet with
      | some paths => paths.any (· == path)
      | none => false

/-- Whether every list of dependents holds something, and only components that import its
stylesheet. -/
def backwardConsistent (idx : Index) : Bool :=
  idx.dependents.entries.all fun (sheet, paths) =>
    !paths.isEmpty && paths.all fun path =>
      match idx.components.get? path with
      | some c => c.imports.any (· == sheet)
      | none => false

/-- Whether the dependents are the inverse of the import lists. -/
def isConsistent (idx : Index) : Bool := idx.forwardConsistent && idx.backwardConsistent

end Index

end ClassLens
