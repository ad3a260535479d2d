import ClassLens.Engine.Debouncer
import ClassLens.Engine.Flight
import ClassLens.Engine.Task
import ClassLens.Document.Basic
import ClassLens.Import.Resolve
/-
  The engine — the index together with the work on it that is not over

  Changes of stylesheets and of components reach the index through two
  debouncers. Everything is immediate otherwise. A query for a document that is
  not indexed yet joins the first indexing that is in flight for its component,
  and else builds the component from the imports the document has now.
-/

namespace ClassLens

/-- The index, the first indexings in flight, and the pending updates. -/
structure Engine where
  index : Index
  /-- The run in flight for each component that queries wait for. -/
  inFlight : Table Path Nat
  /-- The runs that are not over, by number. -/
  runs : Table Nat Run
  nextRun : Nat
  /-- Stylesheets to update. -/
  sheetTimers : Debouncer Path
  /-- Components to forget. -/
  componentTimers : Debouncer Path
  /-- All that was scheduled, each update where it was scheduled last. -/
  scheduled : List Engine.Update
  deriving Repr

namespace Engine

def new (window : Nat) : Engine :=
  ⟨Index.empty, Table.empty, Table.empty, 0, Debouncer.new window, Debouncer.new window, []⟩

/-- The engine after a change of its index. -/
def mapIndex (e : Engine) (f : Index → Index) : Engine := { e with index := f e.index }

def component? (e : Engine) (path : Path) : Option Component := e.index.components.get? path

def indexComponent (disk : Disk) (e : Engine) (path : Path) (imports : List Path) : Engine :=
  e.mapIndex fun idx => Index.indexComponent disk idx path imports

/-- The engine as some queries meet it. -/
def flight (e : Engine) (queries : List Query) : Flight :=
  ⟨e.index, e.inFlight, e.runs, e.nextRun, queries⟩

/-- The engine as some queries leave it. -/
def leftBy (e : Engine) (f : Flight) : Engine :=
  { e with index := f.index, inFlight := f.inFlight, runs := f.runs, nextRun := f.nextRun }

/-- The component at a path. If it is not there yet, it comes from the run in
flight for it, and if there is none, it is built from the given imports. -/
def ensure (disk : Disk) (e : Engine) (path : Path) (imports : List Path) :
    Engine × Option Component :=
  let (f, c) := Flight.ask disk (e.flight []) path imports
  (e.leftBy f, c)

/-- Several queries for one component at once, each with its own imports. -/
def ensureTogether (disk : Disk) (e : Engine) (path : Path) (imports : List (List Path)) :
    Engine × List (Option Component) :=
  let f := Flight.complete disk (e.flight (imports.map fun i => ⟨path, i, .starting⟩))
  (e.leftBy f, f.answers)

/-- The component of a document. If it is not indexed yet and no run for it is in
flight, it is built from the imports the document has now. -/
def ensureDocument (disk : Disk) (e : Engine) (doc : Document) : Engine × Option Component :=
  match e.component? doc.path with
  | some c => (e, some c)
  | none => ensure disk e doc.path (importPaths disk doc.text doc.path)

/-! ## Changes of files -/

def updateSheet (disk : Disk) (e : Engine) (path : Path) : Engine :=
  e.mapIndex fun idx => Index.updateSheet disk idx path

def removeSheet (e : Engine) (path : Path) : Engine := e.mapIndex fun idx => idx.removeSheet path

def dropComponent (e : Engine) (path : Path) : Engine :=
  e.mapIndex fun idx => idx.dropComponent path

def scheduledWith (e : Engine) (u : Update) : List Update :=
  e.scheduled.filter (fun v => !(v == u)) ++ [u]

/-- A stylesheet changed; the index follows a window later. -/
def scheduleSheet (e : Engine) (path : Path) : Engine :=
  { e with
    sheetTimers := e.sheetTimers.schedule path path
    scheduled := e.scheduledWith (.sheet path) }

/-- The text of a component changed; the index follows a window later. -/
def scheduleComponent (e : Engine) (path : Path) : Engine :=
  { e with
    componentTimers := e.componentTimers.schedule path path
    scheduled := e.scheduledWith (.component path) }

/-- Drops the pending update of a stylesheet. -/
def cancelSheet (e : Engine) (path : Path) : Engine :=
  { e with sheetTimers := e.sheetTimers.cancel path }

/-- Whether a stylesheet has a pending update. -/
def isSheetPending (e : Engine) (path : Path) : Bool := e.sheetTimers.isPending path

def pendingCount (e : Engine) : Nat := e.sheetTimers.pendingCount + e.componentTimers.pendingCount

def setWindow (e : Engine) (window : Nat) : Engine :=
  { e with
    sheetTimers := e.sheetTimers.setWindow window
    componentTimers := e.componentTimers.setWindow window }

/-- Forgets everything and drops all pending updates. Runs go on, but no later query joins them. -/
def clear (e : Engine) : Engine :=
  { e with
    index := Index.empty
    inFlight := Table.empty
    sheetTimers := e.sheetTimers.cancelAll
    componentTimers := e.componentTimers.cancelAll
    scheduled := [] }

/-! ## Time -/

/-- Carries out what falls due at one moment, all of it side by side. -/
def carryOut (disk : Disk) (e : Engine) (due : List Update) : Engine :=
  e.mapIndex fun idx => Task.complete disk idx (due.map Task.ofUpdate)

/-- Whether a due update goes before another one: by its deadline, and at one
moment by when it was scheduled. -/
def goesBefore (e : Engine) (a b : Nat × Update) : Bool :=
  a.1 < b.1 || (a.1 == b.1 && e.scheduled.idxOf a.2 ≤ e.scheduled.idxOf b.2)

/-- Updates in order of deadlines, moment by moment. -/
def moments (due : List (Nat × Update)) : List (List Update) :=
  (due.splitBy fun a b => a.1 == b.1).map fun moment => moment.map (·.2)

/-- Moves time on by some milliseconds and carries out what falls due meanwhile,
in order of deadlines. The clock stands still while a stylesheet is being read,
so what falls due at one moment is over before the next. -/
def advance (disk : Disk) (e : Engine) (ms : Nat) : Engine :=
  let (sheetTimers, sheets) := e.sheetTimers.advance ms
  let (componentTimers, components) := e.componentTimers.advance ms
  let due := (sheets.map fun (t, p) => (t, Update.sheet p)) ++
    (components.map fun (t, p) => (t, Update.component p))
  (moments (due.mergeSort e.goesBefore)).foldl (carryOut disk)
    { e with sheetTimers, componentTimers }

/-- Carries out what is due without any time passing. -/
def settle (disk : Disk) (e : Engine) : Engine := advance disk e 0

end Engine

end ClassLens
