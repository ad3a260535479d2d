import ClassLens.Proofs.Engine.Tasks
import ClassLens.Watch.Basic
/-
  Interleaving — work on one engine that interrupts other work

  Indexing a component, following a change of a stylesheet and answering a
  first query take many steps, and anything may happen between two of them.
  `Workload` holds an engine together with all work under way on it, and
  `Workload.perform` is one step of anything: a whole operation at once, the
  beginning of work, or one step of work begun before. Every step comes with
  its own disk, so files change in any way between steps.

  What is proved:
    1. `Linked.runStep`, `Linked.flightStep`, `Linked.taskStep` — no single
       step of a run, of a query or of a task breaks the links;
    2. `Workload.linked_perform` and `Workload.linked_run` — nor does any
       step of a workload, and so no run of it;
    3. `Workload.dependents_inverse_of_imports` — after every run a component
       is listed under exactly the stylesheets it imports.
-/

namespace ClassLens

/-- An engine with all work under way on it. -/
structure Workload where
  /-- The index, and the queries under way. -/
  flight : Flight
  sheetTimers : Debouncer Path
  componentTimers : Debouncer Path
  scheduled : List Engine.Update
  tasks : List Task

namespace Workload

/-- A new engine with nothing to do. -/
def new (window : Nat) : Workload :=
  ⟨Flight.begin Index.empty [], Debouncer.new window, Debouncer.new window, [], []⟩

/-- The index as it is now. -/
def index (w : Workload) : Index := w.flight.index

/-- The engine, as a call that begins now meets it. -/
def engine (w : Workload) : Engine :=
  ⟨w.index, w.flight.inFlight, w.flight.runs, w.flight.nextRun, w.sheetTimers, w.componentTimers,
    w.scheduled⟩

/-- The workload after a change of its engine. -/
def onEngine (w : Workload) (f : Engine → Engine) : Workload :=
  { w with
    flight := (f w.engine).flight w.flight.queries
    sheetTimers := (f w.engine).sheetTimers
    componentTimers := (f w.engine).componentTimers
    scheduled := (f w.engine).scheduled }

/-- The workload with one more task. -/
def addTask (w : Workload) (t : Task) : Workload := { w with tasks := w.tasks ++ [t] }

/-- What can happen next. -/
inductive Action where
  -- an operation of the engine, start to end
  | index (component : Path) (imports : List Path)
  | ensure (component : Path) (imports : List Path)
  | updateSheet (sheet : Path)
  | removeSheet (sheet : Path)
  | dropComponent (component : Path)
  | clear
  | scheduleSheet (sheet : Path)
  | scheduleComponent (component : Path)
  | cancelSheet (sheet : Path)
  | setWindow (ms : Nat)
  | dispatch (watch : Watch) (change : FileChange)
  /-- Time moves on, and what falls due meanwhile is carried out start to end. -/
  | advance (ms : Nat)
  -- work that others may interrupt
  | beginQuery (component : Path) (imports : List Path)
  | stepQuery (i : Nat)
  /-- A query is given up midway; its run stays in flight. -/
  | abandonQuery (i : Nat)
  | beginTask (component : Path) (imports : List Path)
  | beginUpdate (sheet : Path)
  /-- Time moves on, and what falls due meanwhile becomes a task. -/
  | fire (ms : Nat)
  | stepTask (i : Nat)
  /-- A task is given up midway. -/
  | abandonTask (i : Nat)

/-- Time moves on; the updates that fall due leave the timers and become tasks. -/
def fire (w : Workload) (ms : Nat) : Workload :=
  let sheets := w.sheetTimers.advance ms
  let components := w.componentTimers.advance ms
  { w with
    sheetTimers := sheets.1
    componentTimers := components.1
    tasks := w.tasks ++ (sheets.2.map fun due => Task.ofUpdate (.sheet due.2)) ++
      components.2.map fun due => Task.ofUpdate (.component due.2) }

/-- The task with the given number moves on. -/
def stepTask (disk : Disk) (w : Workload) (i : Nat) : Workload :=
  match w.tasks[i]? with
  | none => w
  | some t =>
    let after := t.step disk w.index
    { w with
      flight := { w.flight with index := after.1 }
      tasks := match after.2 with
        | some t => w.tasks.set i t
        | none => w.tasks.eraseIdx i }

/-- One step. -/
def perform (disk : Disk) (w : Workload) : Action → Workload
  | .index component imports => w.onEngine (Engine.indexComponent disk · component imports)
  | .ensure component imports => w.onEngine fun e => (Engine.ensure disk e component imports).1
  | .updateSheet sheet => w.onEngine (Engine.updateSheet disk · sheet)
  | .removeSheet sheet => w.onEngine (Engine.removeSheet · sheet)
  | .dropComponent component => w.onEngine (Engine.dropComponent · component)
  | .clear => w.onEngine Engine.clear
  | .scheduleSheet sheet => w.onEngine (Engine.scheduleSheet · sheet)
  | .scheduleComponent component => w.onEngine (Engine.scheduleComponent · component)
  | .cancelSheet sheet => w.onEngine (Engine.cancelSheet · sheet)
  | .setWindow ms => w.onEngine (Engine.setWindow · ms)
  | .dispatch watch change => w.onEngine (watch.dispatch disk · change)
  | .advance ms => w.onEngine (Engine.advance disk · ms)
  | .beginQuery component imports =>
    { w with flight := { w.flight with
      queries := w.flight.queries ++ [⟨component, imports, .starting⟩] } }
  | .stepQuery i => { w with flight := w.flight.step disk i }
  | .abandonQuery i =>
    { w with flight := { w.flight with queries := w.flight.queries.eraseIdx i } }
  | .beginTask component imports => w.addTask (Task.index component imports)
  | .beginUpdate sheet => w.addTask (.update sheet)
  | .fire ms => w.fire ms
  | .stepTask i => w.stepTask disk i
  | .abandonTask i => { w with tasks := w.tasks.eraseIdx i }

/-- A whole run from a new engine: every step with the disk it meets. -/
def run (window : Nat) (script : List (Disk × Action)) : Workload :=
  script.foldl (fun w step => w.perform step.1 step.2) (new window)

end Workload

/-! ## No single step breaks the links -/

namespace Index

theorem Linked.runStep {idx : Index} (h : Linked idx) (disk : Disk) (r : Run) :
    Linked (Run.step disk idx r).1 := by
  -- only the last step touches components and dependents, and it is a commit
  unfold Run.step
  split
  · exact h.commit _
  · split
    · split
      · exact h
      · split <;> exact h
    · split <;> exact h
    · split <;> exact h
    · split <;> exact h
    · exact h.of_eq rfl rfl
    · exact h.of_eq rfl rfl

theorem Linked.finish {idx : Index} (h : Linked idx) (disk : Disk) (r : Run) :
    Linked (r.finish disk idx) := by
  unfold Run.finish
  generalize r.stepsLeft = n
  induction n generalizing idx r with
  | zero => exact h
  | succ n ih =>
    have hstep := h.runStep disk r
    rw [Run.drive]
    split <;> rename_i heq <;> rw [heq] at hstep
    · exact ih hstep _
    · exact hstep

theorem Linked.ask {f : Flight} (h : Linked f.index) (disk : Disk) (component : Path)
    (imports : List Path) : Linked (f.ask disk component imports).1.index := by
  unfold Flight.ask
  split
  · exact h
  · simp only
    split
    · unfold Flight.joined
      simp only
      split
      · exact h.finish disk _
      · exact h
    · exact h.indexComponent disk component imports

theorem Linked.flightStep {f : Flight} (h : Linked f.index) (disk : Disk) (i : Nat) :
    Linked (f.step disk i).index := by
  unfold Flight.step
  split
  · exact h
  · split
    · -- a query that begins leaves the index alone
      unfold Flight.startQuery
      split
      · exact h
      · split <;> exact h
    · unfold Flight.await
      split
      · exact h
      · rename_i r _
        have hrun := h.runStep disk r
        split <;> rename_i hstep <;> rw [hstep] at hrun <;> exact hrun
    · exact h

theorem Linked.taskStep {idx : Index} (h : Linked idx) (disk : Disk) (t : Task) :
    Linked (t.step disk idx).1 := by
  unfold Task.step
  split
  · exact h.of_eq rfl rfl
  · exact h.dropComponent _
  · exact h.runStep disk _
  · exact h
  · exact h

theorem Linked.carryOut {e : Engine} (h : Linked e.index) (disk : Disk)
    (due : List Engine.Update) : Linked (e.carryOut disk due).index :=
  Task.complete_keeps (T := fun _ => True)
    (fun _ t hidx _ => ⟨hidx.taskStep disk t, fun _ _ => trivial⟩) h fun _ _ => trivial

theorem Linked.advance {e : Engine} (h : Linked e.index) (disk : Disk) (ms : Nat) :
    Linked (e.advance disk ms).index :=
  List.foldlRecOn (motive := fun e : Engine => Linked e.index) _ _ h
    fun _ h' due _ => h'.carryOut disk due

theorem Linked.dispatch {e : Engine} (h : Linked e.index) (watch : Watch) (disk : Disk)
    (change : FileChange) : Linked (watch.dispatch disk e change).index := by
  unfold Watch.dispatch
  split
  · exact h
  · exact h.removeSheet change.path
  · exact h
  · exact h.dropComponent change.path
  · exact h

end Index

namespace Workload

open Index

theorem linked_perform {w : Workload} (h : Linked w.index) (disk : Disk) (a : Action) :
    Linked (w.perform disk a).index := by
  have he : Linked w.engine.index := h
  cases a with
  | index component imports => exact he.indexComponent disk component imports
  | ensure component imports => exact Linked.ask (f := w.engine.flight []) h disk component imports
  | updateSheet sheet => exact he.updateSheet disk sheet
  | removeSheet sheet => exact he.removeSheet sheet
  | dropComponent component => exact he.dropComponent component
  | clear => exact linked_empty
  | scheduleSheet sheet => exact h
  | scheduleComponent component => exact h
  | cancelSheet sheet => exact h
  | setWindow ms => exact h
  | dispatch watch change => exact he.dispatch watch disk change
  | advance ms => exact he.advance disk ms
  | beginQuery component imports => exact h
  | stepQuery i => exact Linked.flightStep h disk i
  | abandonQuery i => exact h
  | beginTask component imports => exact h
  | beginUpdate sheet => exact h
  | fire ms => exact h
  | stepTask i =>
    show Linked (w.stepTask disk i).index
    unfold Workload.stepTask
    split
    · exact h
    · exact h.taskStep disk _
  | abandonTask i => exact h

theorem linked_run (window : Nat) (script : List (Disk × Action)) :
    Linked (run window script).index := by
  unfold run
  have hstart : Linked (new window).index := linked_empty
  generalize new window = w at hstart
  induction script generalizing w with
  | nil => exact hstart
  | cons step rest ih => exact ih _ (linked_perform hstart step.1 step.2)

/-- **The dependents are the inverse of the imports.** Whatever happens to an
engine, in whatever order and on whatever disks, a component is listed under a
stylesheet exactly when it is indexed and imports it, and no list is empty. -/
theorem dependents_inverse_of_imports (window : Nat) (script : List (Disk × Action)) :
    (∀ component sheet,
      Lists (run window script).index.dependents sheet component ↔
        Imports (run window script).index.components component sheet) ∧
    (∀ entry ∈ (run window script).index.dependents.entries, entry.2 ≠ []) ∧
    (run window script).index.isConsistent = true := by
  have h := linked_run window script
  refine ⟨fun component sheet => h.lists_iff sheet component, ?_, h.isConsistent⟩
  rintro ⟨sheet, paths⟩ hentry hnil
  have hget := Table.get?_of_mem h.dependents_distinct hentry BEq.rfl
  exact h.occupied sheet (hget.trans (congrArg some hnil))

end Workload

end ClassLens
