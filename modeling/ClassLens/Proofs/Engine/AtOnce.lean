import ClassLens.Proofs.Engine.Built
/-
  At once — operations that nothing interrupts

  Most of what a workload does is done start to end on the disk of one moment;
  only work that was begun before goes on step by step. As long as no work was
  begun, a run of such operations keeps to any standard that the disks it meets
  are up to, each at its moment.

  What is proved:
    1. `Idle.perform` — operations that are done at once begin no work;
    2. `Index.HoldsOnly.runAtOnce` — what every run of them keeps to.
-/

namespace ClassLens

namespace Workload

/-- Done start to end, on the disk of one moment. -/
def Action.AtOnce : Action → Prop
  | .beginQuery _ _ | .stepQuery _ | .abandonQuery _ | .beginTask _ _ | .beginUpdate _ | .fire _
  | .stepTask _ | .abandonTask _ => False
  | _ => True

/-- The stylesheets that an action asks for. -/
def Action.imports : Action → List Path
  | .index _ imports | .ensure _ imports | .beginQuery _ imports | .beginTask _ imports => imports
  | _ => []

theorem Action.imports_of_mem_jobs {a : Action} {job : Job} (h : job ∈ a.jobs) :
    job.2 = a.imports := by
  cases a with
  | index component imports => rw [List.mem_singleton.mp h]; rfl
  | ensure component imports => rw [List.mem_singleton.mp h]; rfl
  | beginQuery component imports => rw [List.mem_singleton.mp h]; rfl
  | beginTask component imports => rw [List.mem_singleton.mp h]; rfl
  | _ => cases h

/-- No work is under way. -/
structure Idle (w : Workload) : Prop where
  runs : ∀ n, w.flight.runs.get? n = none
  queries : w.flight.queries = []
  tasks : w.tasks = []

variable {w : Workload} {disk : Disk}

theorem idle_new (window : Nat) : (new window).Idle where
  runs := fun _ => rfl
  queries := rfl
  tasks := rfl

theorem Idle.perform (h : w.Idle) (disk : Disk) {a : Action} (ha : a.AtOnce) :
    (w.perform disk a).Idle := by
  obtain ⟨hruns, hqueries, htasks⟩ := h
  cases a with
  | index component imports => exact ⟨hruns, hqueries, htasks⟩
  | ensure component imports =>
    refine ⟨fun n => ?_, hqueries, htasks⟩
    show (Flight.ask disk (w.engine.flight []) component imports).1.runs.get? n = none
    unfold Flight.ask
    split
    · exact hruns n
    · simp only
      split
      · rename_i run _
        show (w.flight.runs.erase run).get? n = none
        rw [Table.get?_erase, hruns n, ite_self]
      · exact hruns n
  | updateSheet sheet => exact ⟨hruns, hqueries, htasks⟩
  | removeSheet sheet => exact ⟨hruns, hqueries, htasks⟩
  | dropComponent component => exact ⟨hruns, hqueries, htasks⟩
  | clear => exact ⟨hruns, hqueries, htasks⟩
  | dispatch watch change =>
    refine ⟨fun n => ?_, hqueries, htasks⟩
    show (watch.dispatch disk w.engine change).runs.get? n = none
    rw [watch.dispatch_runs]
    exact hruns n
  | advance ms =>
    refine ⟨fun n => ?_, hqueries, htasks⟩
    show (w.engine.advance disk ms).runs.get? n = none
    rw [Engine.advance_runs]
    exact hruns n
  | scheduleSheet sheet => exact ⟨hruns, hqueries, htasks⟩
  | scheduleComponent component => exact ⟨hruns, hqueries, htasks⟩
  | cancelSheet sheet => exact ⟨hruns, hqueries, htasks⟩
  | setWindow ms => exact ⟨hruns, hqueries, htasks⟩
  | _ => exact ha.elim

end Workload

namespace Index

open Workload

/-- Whatever is done at once, on whatever disks, the engine holds only what is up
to standards that ask the same of sheets. -/
theorem HoldsOnly.runAtOnce {Q : Sheet → Prop} {K : Component → Prop} {S : Disk → Standard}
    (hsheets : ∀ d, (S d).holds = Q) (window : Nat) {script : List (Disk × Action)}
    (hscript : ∀ step ∈ script, step.2.AtOnce ∧ ∀ p ∈ step.2.imports, (S step.1).asks p)
    (hyields : ∀ step ∈ script, Yields step.1 (S step.1) K) :
    HoldsOnly Q K (run window script).index := by
  have hrun : (run window script).Idle ∧ HoldsOnly Q K (run window script).index := by
    refine List.foldlRecOn (motive := fun w : Workload => w.Idle ∧ HoldsOnly Q K w.index) script _
      ⟨idle_new window, holdsOnly_empty Q K⟩ fun w h step hstep => ?_
    obtain ⟨hidle, hindex⟩ := h
    obtain ⟨hatonce, himports⟩ := hscript step hstep
    rw [← hsheets step.1] at hindex ⊢
    -- without work under way only the index has to be up to the standard
    have hkept : w.Kept (HoldsOnly (S step.1).holds K) (Run.Carries (S step.1))
        fun job => ∀ p ∈ job.2, (S step.1).asks p :=
      { index := hindex
        runs := fun n r hr => by rw [hidle.runs n] at hr; cases hr
        queries := fun q hq => by rw [hidle.queries] at hq; cases hq
        tasks := fun t ht => by rw [hidle.tasks] at ht; cases ht }
    have hafter := hkept.perform (keeps_holdsOnly (hyields step hstep)) step.2 fun job hjob => by
      rw [Action.imports_of_mem_jobs hjob]
      exact himports
    exact ⟨hidle.perform step.1 hatonce, hafter.index⟩
  exact hrun.2

end Index

end ClassLens
