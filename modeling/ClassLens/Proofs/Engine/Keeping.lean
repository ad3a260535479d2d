import ClassLens.Proofs.Engine.Interleaving
/-
  Keeping — what lasts through everything that happens to an engine

  An invariant of an engine with work under way has three parts: one about the
  index, one about every run, and one about every job, which is a component to
  be indexed from some imports that no run has begun with. `Keeps` lists what
  has to be shown of the parts: that a run takes its first step from a job, that
  every further step leads from good to good, and that so do the few changes of
  the index that no run makes. All operations that are done at once are made of
  these, because indexing a component is a run that nothing interrupts.

  What is proved:
    1. `Keeps.indexComponent`, `Keeps.ask`, `Keeps.updateSheet`, `Keeps.removeSheet`,
       `Keeps.advance` — the operations done at once;
    2. `Kept.stepQuery`, `Kept.stepTask`, `Kept.perform` — one step of a
       workload;
    3. `Kept.performAll` — any number of steps, from any workload.
-/

namespace ClassLens

/-- A component to be indexed, and the stylesheets to index it from. -/
abbrev Job := Path × List Path

/-! ## Invariants and what they need -/

/-- What has to be shown of an invariant, with a part about the index, one about
runs and one about jobs, for steps on a disk. -/
structure Keeps (disk : Disk) (I : Index → Prop) (R : Run → Prop) (J : Job → Prop) : Prop where
  start : ∀ job, J job → R (Run.start job.1 job.2)
  step : ∀ idx r, I idx → R r →
    I (Run.step disk idx r).1 ∧ ∀ r', (Run.step disk idx r).2 = some r' → R r'
  rebuilds : ∀ idx sheet, I idx → ∀ job ∈ idx.rebuilds sheet, J job
  forget : ∀ idx sheet, I idx → I (idx.forget sheet)
  unlist : ∀ idx sheet, I idx → I { idx with dependents := idx.dependents.erase sheet }
  drop : ∀ idx component, I idx → I (idx.dropComponent component)
  empty : I Index.empty

/-- An invariant of a task: of the run it is at, and of the jobs behind it. -/
def Task.Kept (R : Run → Prop) (J : Job → Prop) : Task → Prop
  | .build current queue => (∀ r, current = some r → R r) ∧ ∀ job ∈ queue, J job
  | _ => True

theorem Task.kept_ofUpdate (R : Run → Prop) (J : Job → Prop) (u : Engine.Update) :
    (Task.ofUpdate u).Kept R J := by
  cases u <;> trivial

namespace Keeps

variable {disk : Disk} {I : Index → Prop} {R : Run → Prop} {J : Job → Prop} {idx : Index}
  {e : Engine}

/-! ## Operations done at once -/

theorem finish (h : Keeps disk I R J) {r : Run} (hidx : I idx) (hr : R r) :
    I (r.finish disk idx) := by
  unfold Run.finish
  generalize r.stepsLeft = n
  induction n generalizing idx r with
  | zero => exact hidx
  | succ n ih =>
    obtain ⟨hindex, hleft⟩ := h.step idx r hidx hr
    rw [Run.drive]
    split <;> rename_i hstep <;> rw [hstep] at hindex hleft
    · exact ih hindex (hleft _ rfl)
    · exact hindex

theorem indexComponent (h : Keeps disk I R J) {component : Path} {imports : List Path}
    (hidx : I idx) (hjob : J (component, imports)) :
    I (Index.indexComponent disk idx component imports) := by
  rw [← Run.finish_start]
  exact h.finish hidx (h.start _ hjob)

theorem buildAll (h : Keeps disk I R J) {jobs : List Job} (hidx : I idx)
    (hjobs : ∀ job ∈ jobs, J job) :
    I (jobs.foldl (fun idx job => Index.indexComponent disk idx job.1 job.2) idx) :=
  List.foldlRecOn jobs _ hidx fun _ hidx' job hjob => h.indexComponent hidx' (hjobs job hjob)

theorem ask (h : Keeps disk I R J) {f : Flight} {component : Path} {imports : List Path}
    (hidx : I f.index) (hruns : ∀ n r, f.runs.get? n = some r → R r)
    (hjob : J (component, imports)) :
    I (f.ask disk component imports).1.index ∧
      ∀ n r, (f.ask disk component imports).1.runs.get? n = some r → R r := by
  unfold Flight.ask
  split
  · exact ⟨hidx, hruns⟩
  · simp only
    split
    · rename_i run _
      refine ⟨?_, fun n r hget => hruns n r (Table.of_get?_erase hget)⟩
      unfold Flight.joined
      simp only
      split
      · rename_i r hr
        exact h.finish hidx (hruns run r hr)
      · exact hidx
    · exact ⟨h.indexComponent hidx hjob, hruns⟩

theorem updateSheet (h : Keeps disk I R J) (sheet : Path) (hidx : I idx) :
    I (Index.updateSheet disk idx sheet) :=
  have hforget := h.forget idx sheet hidx
  h.buildAll hforget (h.rebuilds _ sheet hforget)

theorem removeSheet (h : Keeps disk I R J) (sheet : Path) (hidx : I idx) :
    I (idx.removeSheet sheet) :=
  List.foldlRecOn _ _ (h.unlist _ sheet (h.forget idx sheet hidx))
    fun _ hidx' component _ => h.drop _ component hidx'

theorem task (h : Keeps disk I R J) : Task.StepKeeps disk I (Task.Kept R J) := by
  intro idx t hidx ht
  unfold Task.step
  split
  · rename_i sheet
    have hforget := h.forget idx sheet hidx
    refine ⟨hforget, fun t' ht' => ?_⟩
    cases ht'
    refine ⟨fun r hr => ?_, h.rebuilds _ sheet hforget⟩
    cases hr
  · refine ⟨h.drop idx _ hidx, fun t' ht' => ?_⟩
    cases ht'
  · rename_i r queue
    obtain ⟨hindex, hleft⟩ := h.step idx r hidx (ht.1 r rfl)
    refine ⟨hindex, fun t' ht' => ?_⟩
    cases ht'
    exact ⟨hleft, ht.2⟩
  · rename_i component imports queue
    refine ⟨hidx, fun t' ht' => ?_⟩
    cases ht'
    refine ⟨fun r hr => ?_, fun job hjob => ht.2 job (List.mem_cons_of_mem _ hjob)⟩
    cases hr
    exact h.start _ (ht.2 _ List.mem_cons_self)
  · refine ⟨hidx, fun t' ht' => ?_⟩
    cases ht'

theorem advance (h : Keeps disk I R J) (ms : Nat) (hidx : I e.index) :
    I (e.advance disk ms).index := by
  refine List.foldlRecOn (motive := fun e : Engine => I e.index) _ _ hidx fun e' hidx' due _ => ?_
  refine Task.complete_keeps h.task hidx' fun t ht => ?_
  obtain ⟨u, -, rfl⟩ := List.mem_map.mp ht
  exact Task.kept_ofUpdate R J u

theorem dispatch (h : Keeps disk I R J) (watch : Watch) (change : FileChange) (hidx : I e.index) :
    I (watch.dispatch disk e change).index := by
  unfold Watch.dispatch
  split
  · exact hidx
  · exact h.removeSheet change.path hidx
  · exact hidx
  · exact h.drop e.index change.path hidx
  · exact hidx

end Keeps

/-! ## Work under way -/

theorem Engine.advance_runs (disk : Disk) (e : Engine) (ms : Nat) :
    (e.advance disk ms).runs = e.runs :=
  List.foldlRecOn (motive := fun e' : Engine => e'.runs = e.runs) _ _ rfl fun _ h _ _ => h

theorem Watch.dispatch_runs (watch : Watch) (disk : Disk) (e : Engine) (change : FileChange) :
    (watch.dispatch disk e change).runs = e.runs := by
  unfold Watch.dispatch
  split <;> rfl

/-- The run that a task is at. -/
def Task.current? : Task → Option Run
  | .build current _ => current
  | _ => none

/-- The jobs that a task has collected and not installed yet. -/
def Task.jobs : Task → List Job
  | .build current queue => (current.map fun r => (r.component, r.imports)).toList ++ queue
  | _ => []

namespace Workload

/-- A run that is not over: one that queries wait for, or one that a task is at. -/
def Runs (w : Workload) (r : Run) : Prop :=
  (∃ n, w.flight.runs.get? n = some r) ∨ ∃ t ∈ w.tasks, t.current? = some r

/-- An invariant of a workload: of its index, its runs, and its jobs. The jobs
are those of queries that have not begun and those that tasks have collected. -/
structure Kept (I : Index → Prop) (R : Run → Prop) (J : Job → Prop) (w : Workload) : Prop where
  index : I w.index
  runs : ∀ n r, w.flight.runs.get? n = some r → R r
  queries : ∀ q ∈ w.flight.queries, q.state = .starting → J (q.component, q.imports)
  tasks : ∀ t ∈ w.tasks, t.Kept R J

/-- The jobs that an action brings with it. -/
def Action.jobs : Action → List Job
  | .index component imports | .ensure component imports | .beginQuery component imports
  | .beginTask component imports => [(component, imports)]
  | _ => []

variable {disk : Disk} {I : Index → Prop} {R : Run → Prop} {J : Job → Prop} {w : Workload}

theorem Kept.of_runs (h : w.Kept I R J) {r : Run} (hr : w.Runs r) : R r := by
  rcases hr with ⟨n, hn⟩ | ⟨t, ht, hcurrent⟩
  · exact h.runs n r hn
  · cases t with
    | update sheet => cases hcurrent
    | drop component => cases hcurrent
    | build current queue => exact (h.tasks _ ht).1 r hcurrent

/-- Parts of an invariant may become others, if each run under way allows it. -/
theorem Kept.imp {I' : Index → Prop} {R' : Run → Prop} (hw : w.Kept I R J)
    (hindex : I w.index → I' w.index) (hruns : ∀ r, w.Runs r → R r → R' r) : w.Kept I' R' J where
  index := hindex hw.index
  runs := fun n r hr => hruns r (.inl ⟨n, hr⟩) (hw.runs n r hr)
  queries := hw.queries
  tasks := by
    intro t ht
    have hkept := hw.tasks t ht
    cases t with
    | update sheet => trivial
    | drop component => trivial
    | build current queue =>
      exact ⟨fun r hr => hruns r (.inr ⟨_, ht, hr⟩) (hkept.1 r hr), hkept.2⟩

theorem Kept.stepTask (hw : w.Kept I R J) (h : Keeps disk I R J) (i : Nat) :
    (w.stepTask disk i).Kept I R J := by
  unfold Workload.stepTask
  split
  · exact hw
  · rename_i t ht
    obtain ⟨hindex, hleft⟩ := h.task w.index t hw.index (hw.tasks t (List.mem_of_getElem? ht))
    refine ⟨hindex, hw.runs, hw.queries, fun t' ht' => ?_⟩
    simp only at ht'
    split at ht'
    · rename_i t'' ht''
      rcases List.mem_or_eq_of_mem_set ht' with hold | rfl
      · exact hw.tasks t' hold
      · exact hleft t' ht''
    · exact hw.tasks t' (List.mem_of_mem_eraseIdx ht')

theorem Kept.setState {f : Flight} (hq : ∀ q ∈ f.queries, q.state = .starting →
      J (q.component, q.imports)) {i : Nat} {q : Query} {state : QueryState}
    (hstate : state ≠ .starting) :
    ∀ q' ∈ (f.setState i q state).queries, q'.state = .starting → J (q'.component, q'.imports) := by
  intro q' hq' hstarting
  rcases List.mem_or_eq_of_mem_set hq' with hold | rfl
  · exact hq q' hold hstarting
  · exact absurd hstarting hstate

theorem Kept.stepQuery (hw : w.Kept I R J) (h : Keeps disk I R J) (i : Nat) :
    ({ w with flight := w.flight.step disk i } : Workload).Kept I R J := by
  unfold Flight.step
  split
  · exact hw
  · rename_i q hq
    split
    · rename_i hstate
      unfold Flight.startQuery
      split
      · exact ⟨hw.index, hw.runs, Kept.setState hw.queries (by simp), hw.tasks⟩
      · split
        · exact ⟨hw.index, hw.runs, Kept.setState hw.queries (by simp), hw.tasks⟩
        · refine ⟨hw.index, fun n r hget => ?_, Kept.setState hw.queries (by simp), hw.tasks⟩
          rcases Table.of_get?_insert hget with ⟨-, rfl⟩ | hbefore
          · exact h.start _ (hw.queries q (List.mem_of_getElem? hq) hstate)
          · exact hw.runs n r hbefore
    · rename_i run _
      unfold Flight.await
      split
      · exact ⟨hw.index, hw.runs, Kept.setState hw.queries (by simp), hw.tasks⟩
      · rename_i r hr
        obtain ⟨hindex, hleft⟩ := h.step w.flight.index r hw.index (hw.runs run r hr)
        split
        · rename_i index r' hstep
          rw [hstep] at hindex hleft
          refine ⟨hindex, fun n r'' hget => ?_, hw.queries, hw.tasks⟩
          rcases Table.of_get?_insert hget with ⟨-, rfl⟩ | hbefore
          · exact hleft r'' rfl
          · exact hw.runs n r'' hbefore
        · rename_i index hstep
          rw [hstep] at hindex
          exact ⟨hindex, fun n r'' hget => hw.runs n r'' (Table.of_get?_erase hget),
            Kept.setState hw.queries (by simp), hw.tasks⟩
    · exact hw

theorem Kept.addTasks (hw : w.Kept I R J) {more : List Task} (hmore : ∀ t ∈ more, t.Kept R J) :
    ∀ t ∈ w.tasks ++ more, t.Kept R J := by
  intro t ht
  rcases List.mem_append.mp ht with ht | ht
  · exact hw.tasks t ht
  · exact hmore t ht

theorem Kept.perform (hw : w.Kept I R J) (h : Keeps disk I R J) (a : Action)
    (hjobs : ∀ job ∈ a.jobs, J job) : (w.perform disk a).Kept I R J := by
  have hidx : I w.engine.index := hw.index
  cases a with
  | index component imports =>
    have hjob := hjobs (component, imports) List.mem_cons_self
    exact ⟨h.indexComponent hidx hjob, hw.runs, hw.queries, hw.tasks⟩
  | ensure component imports =>
    have hjob := hjobs (component, imports) List.mem_cons_self
    obtain ⟨hindex, hruns⟩ := h.ask (f := w.engine.flight []) hw.index hw.runs hjob
    exact ⟨hindex, hruns, hw.queries, hw.tasks⟩
  | updateSheet sheet => exact ⟨h.updateSheet sheet hidx, hw.runs, hw.queries, hw.tasks⟩
  | removeSheet sheet => exact ⟨h.removeSheet sheet hidx, hw.runs, hw.queries, hw.tasks⟩
  | dropComponent component => exact ⟨h.drop _ component hidx, hw.runs, hw.queries, hw.tasks⟩
  | clear => exact ⟨h.empty, hw.runs, hw.queries, hw.tasks⟩
  | scheduleSheet sheet => exact ⟨hidx, hw.runs, hw.queries, hw.tasks⟩
  | scheduleComponent component => exact ⟨hidx, hw.runs, hw.queries, hw.tasks⟩
  | cancelSheet sheet => exact ⟨hidx, hw.runs, hw.queries, hw.tasks⟩
  | setWindow ms => exact ⟨hidx, hw.runs, hw.queries, hw.tasks⟩
  | dispatch watch change =>
    have hruns : (w.perform disk (.dispatch watch change)).flight.runs = w.flight.runs :=
      watch.dispatch_runs disk w.engine change
    exact ⟨h.dispatch watch change hidx, hruns ▸ hw.runs, hw.queries, hw.tasks⟩
  | advance ms =>
    have hruns : (w.perform disk (.advance ms)).flight.runs = w.flight.runs :=
      Engine.advance_runs disk w.engine ms
    exact ⟨h.advance ms hidx, hruns ▸ hw.runs, hw.queries, hw.tasks⟩
  | beginQuery component imports =>
    refine ⟨hw.index, hw.runs, fun q hq hstate => ?_, hw.tasks⟩
    rcases List.mem_append.mp hq with hq | hq
    · exact hw.queries q hq hstate
    · rw [List.mem_singleton.mp hq]
      exact hjobs _ List.mem_cons_self
  | stepQuery i => exact hw.stepQuery h i
  | abandonQuery i =>
    refine ⟨hw.index, hw.runs, fun q hq hstate => ?_, hw.tasks⟩
    exact hw.queries q (List.mem_of_mem_eraseIdx hq) hstate
  | beginTask component imports =>
    refine ⟨hw.index, hw.runs, hw.queries, hw.addTasks fun t ht => ?_⟩
    rw [List.mem_singleton.mp ht]
    refine ⟨fun r hr => ?_, fun job hjob => by cases hjob⟩
    cases hr
    exact h.start _ (hjobs _ List.mem_cons_self)
  | beginUpdate sheet =>
    refine ⟨hw.index, hw.runs, hw.queries, hw.addTasks fun t ht => ?_⟩
    rw [List.mem_singleton.mp ht]
    trivial
  | fire ms =>
    refine ⟨hw.index, hw.runs, hw.queries, fun t ht => ?_⟩
    rcases List.mem_append.mp ht with ht | ht
    · refine hw.addTasks (fun t ht => ?_) t ht
      obtain ⟨due, -, rfl⟩ := List.mem_map.mp ht
      exact Task.kept_ofUpdate R J _
    · obtain ⟨due, -, rfl⟩ := List.mem_map.mp ht
      exact Task.kept_ofUpdate R J _
  | stepTask i => exact hw.stepTask h i
  | abandonTask i =>
    exact ⟨hw.index, hw.runs, hw.queries, fun t ht => hw.tasks t (List.mem_of_mem_eraseIdx ht)⟩

/-- Any number of steps, each on the disk it meets. -/
def performAll (w : Workload) (script : List (Disk × Action)) : Workload :=
  script.foldl (fun w step => w.perform step.1 step.2) w

theorem Kept.performAll (hw : w.Kept I R J) {script : List (Disk × Action)}
    (h : ∀ step ∈ script, Keeps step.1 I R J ∧ ∀ job ∈ step.2.jobs, J job) :
    (w.performAll script).Kept I R J :=
  List.foldlRecOn (motive := fun w : Workload => w.Kept I R J) script _ hw
    fun _ hw' step hstep => hw'.perform (h step hstep).1 step.2 (h step hstep).2

theorem kept_new (window : Nat) (h : I Index.empty) : (new window).Kept I R J where
  index := h
  runs := fun _ _ hr => by cases hr
  queries := fun _ hq => by cases hq
  tasks := fun _ ht => by cases ht

end Workload

end ClassLens
