import ClassLens.Proofs.Debouncer.Generations
import ClassLens.Proofs.Engine.Built
import ClassLens.Proofs.Engine.Removal
import ClassLens.Proofs.Index.Freshness
/-
  Following — when no change of a stylesheet is lost

  Files change, the changes are reported, and the index follows them a window
  later. In between components are indexed and forgotten, stylesheets are updated
  out of turn, and time passes. Queries and updates that have begun go on side by
  side, a step of one here and a step of another there.

  An update makes the cache forget its stylesheet and collects the components to
  build anew. A run that is past the stylesheet at that time is not among them:
  it goes on with what the stylesheet was before. Nothing else can go wrong. As
  long as no run is past a stylesheet when its update begins, or when its deletion
  is reported, the index is up to date with the disk in every state, at every
  stylesheet whose update does not wait and in every component that no task is
  still to build.

  What is proved:
    1. `Debouncer.OwnPaths`, kept by all that schedules, cancels and fires — the
       update pending for a stylesheet is its own;
    2. `Workload.UpToDate.step` and `Workload.UpToDate.of_reached` — no step in
       time makes the index miss a change, and so no run of such steps does;
    3. `Workload.no_change_lost` — what every component holds in every state;
    4. `Workload.change_lost` — two updates of one moment, of which the older one
       is past the stylesheet of the other.
-/

namespace ClassLens

/-! ## Timers -/

namespace Debouncer

/-- The action of every task in charge is about its own path. -/
structure OwnPaths (d : Debouncer Path) : Prop where
  sound : Sound d
  own : ∀ s ∈ d.live, (s.action == s.path) = true

variable {d : Debouncer Path}

theorem ownPaths_new (window : Nat) : OwnPaths (new window) where
  sound := sound_new window clockReach
  own := fun _ hs => by cases hs

theorem OwnPaths.schedule (h : d.OwnPaths) (path : Path) : (d.schedule path path).OwnPaths where
  sound := h.sound.schedule path path inTime
  own := by
    intro s hs
    rw [h.sound.live_schedule] at hs
    rcases List.mem_append.mp hs with hs | hs
    · exact h.own s (List.mem_filter.mp hs).1
    · rw [List.mem_singleton.mp hs]
      exact BEq.rfl

theorem OwnPaths.cancel (h : d.OwnPaths) (path : Path) : (d.cancel path).OwnPaths where
  sound := h.sound.withdraw path inTime
  own := by
    intro s hs
    unfold Debouncer.cancel at hs
    rw [h.sound.live_withdraw] at hs
    exact h.own s (List.mem_filter.mp hs).1

theorem OwnPaths.cancelAll (h : d.OwnPaths) : d.cancelAll.OwnPaths where
  sound := h.sound.cancelAll inTime
  own := by
    rw [live_cancelAll]
    exact fun _ hs => by cases hs

theorem OwnPaths.setWindow (h : d.OwnPaths) (ms : Nat) : (d.setWindow ms).OwnPaths :=
  ⟨h.sound.setWindow ms, h.own⟩

theorem OwnPaths.advance (h : d.OwnPaths) (ms : Nat) : (d.advance ms).1.OwnPaths where
  sound := h.sound.advance ms
  own := by
    intro s hs
    rw [h.sound.live_advance] at hs
    exact h.own s (List.mem_filter.mp hs).1

theorem OwnPaths.pending_or_due (h : d.OwnPaths) (ms : Nat) {q : Path}
    (hq : d.isPending q = true) :
    (d.advance ms).1.isPending q = true ∨ ∃ due ∈ (d.advance ms).2, (due.2 == q) = true := by
  obtain ⟨s, hs, hpath⟩ := (h.sound.isPending_iff q).mp hq
  cases hdue : s.due? (d.now + ms) with
  | none =>
    refine .inl (((h.sound.advance ms).isPending_iff q).mpr ⟨s, ?_, hpath⟩)
    rw [h.sound.live_advance]
    exact List.mem_filter.mpr ⟨hs, by rw [hdue]; rfl⟩
  | some deadline =>
    refine .inr ⟨(deadline, s.action), ?_, BEq.trans (h.own s hs) hpath⟩
    refine (h.sound.advance_ran ms).1.mem_iff.mpr (List.mem_filterMap.mpr ⟨s, hs, ?_⟩)
    unfold dueOf
    rw [hdue]
    rfl

theorem isPending_schedule (d : Debouncer Path) (path q : Path) :
    (d.schedule path path).isPending q = ((path == q) || d.isPending q) := by
  unfold isPending Table.contains
  rw [schedule_rest]
  show ((d.pending.insert path d.nextGeneration).get? q).isSome = _
  rw [Table.get?_insert]
  cases (path == q) <;> rfl

theorem isPending_cancel (d : Debouncer Path) (path q : Path) :
    (d.cancel path).isPending q = (!(path == q) && d.isPending q) := by
  unfold isPending Table.contains cancel
  rw [withdraw_pending, Table.get?_erase]
  cases (path == q) <;> rfl

end Debouncer

namespace Workload

open Index

/-! ## What is still to be followed -/

/-- The index has still to follow a change of a stylesheet: its update is pending,
or it has fallen due and nothing has been done about it yet. -/
def Awaits (w : Workload) (q : Path) : Prop :=
  w.sheetTimers.isPending q = true ∨ ∃ p, Task.update p ∈ w.tasks ∧ (p == q) = true

/-- A task is still to build a component. -/
def Queued (w : Workload) (c : Path) : Prop :=
  ∃ t ∈ w.tasks, ∃ job ∈ t.jobs, (job.1 == c) = true

/-- No run is past a stylesheet that was owed an update and does not wait for one any more. -/
def Timely (owed : Path → Prop) (w w' : Workload) : Prop :=
  ∀ q, owed q → ¬ w'.Awaits q → ∀ r, w.Runs r → ¬ r.Passed q

theorem timely_of_idle {w : Workload} (h : ∀ r, ¬ w.Runs r) (owed : Path → Prop)
    (w' : Workload) : Timely owed w w' := fun _ _ _ r hr => absurd hr (h r)

/-- What happens while files stay as they are: anything but that pending updates are
dropped or tasks given up. Updates that fall due become tasks. -/
def Action.follows : Action → Bool
  | .cancelSheet _ | .dispatch _ _ | .advance _ | .abandonTask _ => false
  | _ => true

/-- One step in time: something happens on a disk that stays as it is, or a
stylesheet changes, and the change is reported at once. -/
inductive Step (watch : Watch) : Disk → Workload → Disk → Workload → Prop where
  | act {disk : Disk} {w : Workload} (a : Action) (follows : a.follows = true)
      (normal : ∀ job ∈ a.jobs, ∀ p ∈ job.2, p.IsNormal)
      (timely : Timely w.Awaits w (w.perform disk a)) :
      Step watch disk w disk (w.perform disk a)
  /-- A stylesheet is written, with any content and any time. -/
  | write {disk disk' : Disk} {w : Workload} (sheet : Path) (change : Change)
      (kind : watch.filter.kindOfPath sheet = some .stylesheet) (reported : change ≠ .deleted)
      (altered : Disk.AlteredAt sheet disk disk') (written : disk'.isFile sheet = true) :
      Step watch disk w disk' (w.perform disk' (.dispatch watch ⟨sheet, change⟩))
  /-- A stylesheet is deleted. -/
  | delete {disk disk' : Disk} {w : Workload} (sheet : Path)
      (kind : watch.filter.kindOfPath sheet = some .stylesheet)
      (altered : Disk.AlteredAt sheet disk disk')
      (timely : Timely (fun q => w.Awaits q ∨ (q == sheet) = true) w
        (w.perform disk' (.dispatch watch ⟨sheet, .deleted⟩))) :
      Step watch disk w disk' (w.perform disk' (.dispatch watch ⟨sheet, .deleted⟩))

/-- The states of all runs that start with a new engine. -/
inductive Reached (watch : Watch) (window : Nat) : Disk → Workload → Prop where
  | start (disk : Disk) : Reached watch window disk (new window)
  | step {disk disk' : Disk} {w w' : Workload} (before : Reached watch window disk w)
      (last : Step watch disk w disk' w') : Reached watch window disk' w'

/-! ## The invariant -/

/-- All is up to date outside `U`, but for the components in `X`. -/
abbrev KeptBut (U X : Path → Prop) (disk : Disk) (w : Workload) : Prop :=
  w.Kept (HoldsOnly (upToDate U disk).holds (FreshBut U X disk)) (Run.Carries (upToDate U disk))
    fun job => ∀ p ∈ job.2, p.IsNormal

/-- All is up to date but what is still to be followed. -/
structure UpToDate (disk : Disk) (w : Workload) : Prop where
  linked : Linked w.index
  timers : w.sheetTimers.OwnPaths
  kept : KeptBut w.Awaits w.Queued disk w

variable {watch : Watch} {window : Nat} {disk disk' : Disk} {w w' : Workload}
  {U V X Y : Path → Prop}

theorem upToDate_new (window : Nat) (disk : Disk) : UpToDate disk (new window) where
  linked := linked_empty
  timers := Debouncer.ownPaths_new window
  kept := kept_new window (holdsOnly_empty _ _)

/-- A stylesheet can be left out of `U` where the disk is as it was, or else where
the index has lost it and no run is past it. -/
theorem KeptBut.settle (h : KeptBut U X disk w)
    (hindex : ∀ q : Path, q.IsNormal → ¬ V q → ¬ U q ∧ disk'.file? q = disk.file? q ∨
      (w.index.cache.get? q = none ∧
        ∀ c k, w.index.components.get? c = some k → q ∈ k.imports → Y k.path) ∧
      ∀ r, w.Runs r → ¬ r.Passed q)
    (hsub : ∀ c, X c → Y c) : KeptBut V Y disk' w := by
  refine h.imp (fun hidx => hidx.settle (fun q hq hV => (hindex q hq hV).imp_right (·.1)) hsub)
    fun r hr hcarries => hcarries.settle fun q hq hpassed hV => ?_
  exact (hindex q hq hV).resolve_right fun hlost => hlost.2 r hr hpassed

/-- All stays up to date where at least as much is still to be followed. -/
theorem UpToDate.of_kept (hlinked : Linked w.index) (htimers : w.sheetTimers.OwnPaths)
    (h : KeptBut U X disk w) (hU : ∀ q, U q → w.Awaits q) (hX : ∀ c, X c → w.Queued c) :
    UpToDate disk w :=
  ⟨hlinked, htimers, h.settle (fun q _ hV => .inl ⟨fun hq => hV (hU q hq), rfl⟩) hX⟩

/-! ## Steps of tasks -/

section

variable {i : Nat} {t : Task}

theorem stepTask_eq (ht : w.tasks[i]? = some t) :
    w.stepTask disk i =
      { w with
        flight := { w.flight with index := (t.step disk w.index).1 }
        tasks := match (t.step disk w.index).2 with
          | some t => w.tasks.set i t
          | none => w.tasks.eraseIdx i } := by
  unfold stepTask
  split
  · rename_i hnone
    rw [ht] at hnone
    cases hnone
  · rename_i t' ht'
    cases ht.symm.trans ht'
    rfl

theorem stepTask_others (disk : Disk) (ht : w.tasks[i]? = some t) {t' : Task} (ht' : t' ∈ w.tasks) :
    t' = t ∨ t' ∈ (w.stepTask disk i).tasks := by
  obtain ⟨j, hj⟩ := List.mem_iff_getElem?.mp ht'
  by_cases hij : i = j
  · subst hij
    exact .inl (Option.some.inj (hj.symm.trans ht))
  · right
    rw [stepTask_eq ht]
    simp only
    split
    · exact List.mem_iff_getElem?.mpr ⟨j, by rw [List.getElem?_set_ne hij, hj]⟩
    · exact List.mem_eraseIdx_iff_getElem?.mpr ⟨j, Ne.symm hij, hj⟩

theorem stepTask_self (ht : w.tasks[i]? = some t) {t' : Task}
    (hstep : (t.step disk w.index).2 = some t') : t' ∈ (w.stepTask disk i).tasks := by
  obtain ⟨hi, -⟩ := List.getElem?_eq_some_iff.mp ht
  rw [stepTask_eq ht, hstep]
  exact List.mem_set hi t'

/-- A task that is not an update about to begin takes nothing from what is to be followed. -/
theorem awaits_stepTask (ht : w.tasks[i]? = some t) {q : Path}
    (hq : ∀ p, t = .update p → (p == q) = false) (h : w.Awaits q) :
    (w.stepTask disk i).Awaits q := by
  rcases h with hpending | ⟨p, hp, hpq⟩
  · refine .inl ?_
    rw [stepTask_eq ht]
    exact hpending
  · rcases stepTask_others disk ht hp with heq | hmem
    · rw [hq p heq.symm] at hpq
      cases hpq
    · exact .inr ⟨p, hmem, hpq⟩

theorem queued_stepTask (ht : w.tasks[i]? = some t) {c : Path}
    (hjobs : ∀ job ∈ t.jobs, (job.1 == c) = true →
      ∃ t', (t.step disk w.index).2 = some t' ∧ job ∈ t'.jobs)
    (h : w.Queued c) : (w.stepTask disk i).Queued c := by
  obtain ⟨t', ht', job, hjob, hc⟩ := h
  rcases stepTask_others disk ht ht' with rfl | hmem
  · obtain ⟨t'', hstep, hjob'⟩ := hjobs job hjob hc
    exact ⟨t'', stepTask_self ht hstep, job, hjob', hc⟩
  · exact ⟨t', hmem, job, hjob, hc⟩

/-- An update that begins leaves nothing behind but the components to build anew, if no
run is past its stylesheet. -/
theorem UpToDate.stepUpdate (h : UpToDate disk w) {sheet : Path}
    (ht : w.tasks[i]? = some (.update sheet)) (htimely : Timely w.Awaits w (w.stepTask disk i)) :
    KeptBut (w.stepTask disk i).Awaits (w.stepTask disk i).Queued disk (w.stepTask disk i) := by
  have hkept : KeptBut w.Awaits w.Queued disk (w.stepTask disk i) :=
    h.kept.stepTask (keeps_holdsOnly (yields_upToDate _ _ disk)) i
  have hindex : (w.stepTask disk i).index = w.index.forget sheet := by
    rw [stepTask_eq ht]
    rfl
  have hruns : ∀ r, (w.stepTask disk i).Runs r → w.Runs r := by
    rintro r (hflight | ⟨t, hmem, hcurrent⟩)
    · rw [stepTask_eq ht] at hflight
      exact .inl hflight
    · rw [stepTask_eq ht] at hmem
      rcases List.mem_or_eq_of_mem_set hmem with hold | rfl
      · exact .inr ⟨t, hold, hcurrent⟩
      · cases hcurrent
  refine hkept.settle (fun q _ hlater => ?_) fun c => queued_stepTask ht (by simp [Task.jobs])
  by_cases hbefore : w.Awaits q
  · right
    have hsheet : (sheet == q) = true := by
      refine Classical.byContradiction fun hne =>
        hlater (awaits_stepTask ht (fun p hp => ?_) hbefore)
      cases hp
      exact Bool.eq_false_iff.mpr hne
    refine ⟨⟨?_, fun c k hk hmem => ?_⟩, fun r hr => htimely q hbefore hlater r (hruns r hr)⟩
    · rw [hindex]
      exact (Table.get?_erase _ _ _).trans (if_pos hsheet)
    · -- who imports the stylesheet is to be built anew
      rw [hindex] at hk
      have himports : k.imports.any (· == sheet) = true :=
        List.any_eq_true.mpr ⟨q, hmem, BEq.symm hsheet⟩
      have hforget : Linked (w.index.forget sheet) := h.linked.of_eq rfl rfl
      obtain ⟨d, hdc, hjob⟩ := hforget.mem_rebuilds hk himports
      have hpath := (h.kept.index.built c k hk).1
      exact ⟨_, stepTask_self ht rfl, _, hjob, BEq.trans hdc (BEq.symm hpath)⟩
  · exact .inl ⟨hbefore, rfl⟩

/-- A run that is over leaves its component as it should be. -/
theorem UpToDate.stepLast (h : UpToDate disk w) {r : Run} {queue : List Job}
    (ht : w.tasks[i]? = some (.build (some r) queue))
    (hlast : (Run.step disk w.index r).2 = none) :
    KeptBut w.Awaits (fun c => w.Queued c ∧ (r.component == c) = false) disk
      (w.stepTask disk i) := by
  have hkept := h.kept.stepTask (keeps_holdsOnly (yields_upToDate _ _ disk)) i
  have hcarries := h.kept.of_runs (.inr ⟨_, List.mem_of_getElem? ht, rfl⟩)
  have hstep : Run.step disk w.index r = ((Run.step disk w.index r).1, none) :=
    Prod.ext rfl hlast
  obtain ⟨hdone, hcommit⟩ := Run.step_none hstep
  refine hkept.imp (fun _ => ?_) fun _ _ hr => hr
  have hindex : (w.stepTask disk i).index = (Run.step disk w.index r).1 := by
    rw [stepTask_eq ht]
    rfl
  rw [hindex, hcommit]
  exact h.kept.index.commit (hcarries.builds (yields_upToDate _ _ disk) hdone)
    fun k hne hk => ⟨hk.normal, hk.eq_build, hk.gathered.imp_left fun hX => ⟨hX, hne⟩⟩

/-- A step of a task misses no change, if it is in time. -/
theorem UpToDate.stepTask (h : UpToDate disk w) (i : Nat)
    (htimely : Timely w.Awaits w (w.stepTask disk i)) : UpToDate disk (w.stepTask disk i) := by
  have hlinked : Linked (w.stepTask disk i).index := linked_perform h.linked disk (.stepTask i)
  have hkept := h.kept.stepTask (keeps_holdsOnly (yields_upToDate _ _ disk)) i
  cases ht : w.tasks[i]? with
  | none =>
    have hsame : w.stepTask disk i = w := by
      unfold Workload.stepTask
      simp only [ht]
    rwa [hsame]
  | some t =>
    have htimers : (w.stepTask disk i).sheetTimers.OwnPaths := by
      rw [stepTask_eq ht]
      exact h.timers
    cases t with
    | update sheet => exact ⟨hlinked, htimers, h.stepUpdate ht htimely⟩
    | drop component =>
      exact .of_kept hlinked htimers hkept (fun q => awaits_stepTask ht fun p hp => by cases hp)
        fun c => queued_stepTask ht (by simp [Task.jobs])
    | build current queue =>
      have hawaits : ∀ q, w.Awaits q → (w.stepTask disk i).Awaits q :=
        fun q => awaits_stepTask ht fun p hp => by cases hp
      match current, queue with
      | none, [] =>
        exact .of_kept hlinked htimers hkept hawaits
          fun c => queued_stepTask ht (by simp [Task.jobs])
      | none, job :: rest =>
        exact .of_kept hlinked htimers hkept hawaits
          fun c => queued_stepTask ht fun job' hjob' _ => ⟨_, rfl, hjob'⟩
      | some r, queue =>
        cases hleft : (Run.step disk w.index r).2 with
        | some r' =>
          obtain ⟨-, hcomponent, himports, -⟩ := Run.step_some (Prod.ext rfl hleft)
          refine .of_kept hlinked htimers hkept hawaits fun c => queued_stepTask ht ?_
          intro job hjob _
          refine ⟨_, rfl, ?_⟩
          rw [hleft]
          show job ∈ (r'.component, r'.imports) :: queue
          rw [hcomponent, himports]
          exact hjob
        | none =>
          refine .of_kept hlinked htimers (h.stepLast ht hleft) hawaits fun c hc => ?_
          refine queued_stepTask ht (fun job hjob hjobc => ⟨_, rfl, ?_⟩) hc.1
          rw [hleft]
          rcases List.mem_cons.mp hjob with rfl | hjob
          · rw [hc.2] at hjobc
            cases hjobc
          · exact hjob

end

/-! ## All steps -/

theorem UpToDate.act (h : UpToDate disk w) (a : Action) (hfollows : a.follows = true)
    (hnormal : ∀ job ∈ a.jobs, ∀ p ∈ job.2, p.IsNormal)
    (htimely : Timely w.Awaits w (w.perform disk a)) : UpToDate disk (w.perform disk a) := by
  have hlinked := linked_perform h.linked disk a
  have hkept : KeptBut w.Awaits w.Queued disk (w.perform disk a) :=
    h.kept.perform (keeps_holdsOnly (yields_upToDate _ _ disk)) a hnormal
  cases a with
  | cancelSheet sheet | dispatch watch change | advance ms | abandonTask i => cases hfollows
  | index component imports | ensure component imports | updateSheet sheet | removeSheet sheet
  | dropComponent component | scheduleComponent component | beginQuery component imports
  | stepQuery i | abandonQuery i =>
    exact .of_kept hlinked h.timers hkept (fun _ hq => hq) fun _ hc => hc
  | setWindow ms =>
    exact .of_kept hlinked (h.timers.setWindow ms) hkept (fun _ hq => hq) fun _ hc => hc
  | scheduleSheet sheet =>
    refine .of_kept hlinked (h.timers.schedule sheet) hkept (fun q hq => hq.imp_left fun hq => ?_)
      fun _ hc => hc
    show (w.sheetTimers.schedule sheet sheet).isPending q = true
    rw [Debouncer.isPending_schedule, hq, Bool.or_true]
  | clear =>
    refine ⟨hlinked, h.timers.cancelAll, hkept.settle (fun q _ hlater => ?_) fun _ hc => hc⟩
    by_cases hbefore : w.Awaits q
    · exact .inr ⟨⟨rfl, fun c k hk => by cases hk⟩, htimely q hbefore hlater⟩
    · exact .inl ⟨hbefore, rfl⟩
  | beginTask component imports | beginUpdate sheet =>
    exact .of_kept hlinked h.timers hkept
      (fun q hq => hq.imp_right fun ⟨p, hp, hpq⟩ => ⟨p, List.mem_append_left _ hp, hpq⟩)
      fun c ⟨t, ht, hjobs⟩ => ⟨t, List.mem_append_left _ ht, hjobs⟩
  | fire ms =>
    refine .of_kept hlinked (h.timers.advance ms) hkept (fun q hq => ?_) fun c ⟨t, ht, hjobs⟩ =>
      ⟨t, List.mem_append_left _ (List.mem_append_left _ ht), hjobs⟩
    -- what was pending still is, or it is among what falls due
    rcases hq with hpending | ⟨p, hp, hpq⟩
    · rcases h.timers.pending_or_due ms hpending with hwaits | ⟨due, hmem, hdue⟩
      · exact .inl hwaits
      · refine .inr ⟨due.2, List.mem_append_left _ (List.mem_append_right _ ?_), hdue⟩
        exact List.mem_map.mpr ⟨due, hmem, rfl⟩
    · exact .inr ⟨p, List.mem_append_left _ (List.mem_append_left _ hp), hpq⟩
  | stepTask i => exact h.stepTask i htimely

theorem dispatch_written {e : Engine} {sheet : Path} {change : Change}
    (hkind : watch.filter.kindOfPath sheet = some .stylesheet) (hchange : change ≠ .deleted)
    (hfile : disk.isFile sheet = true) :
    watch.dispatch disk e ⟨sheet, change⟩ = e.scheduleSheet sheet := by
  have hclass : watch.filter.classify disk ⟨sheet, change⟩ = some .stylesheet := by
    unfold Filter.classify
    simp [hfile, hkind]
  unfold Watch.dispatch
  rw [hclass]
  cases change with
  | created => rfl
  | modified => rfl
  | deleted => exact absurd rfl hchange

theorem dispatch_deleted {e : Engine} {sheet : Path}
    (hkind : watch.filter.kindOfPath sheet = some .stylesheet) :
    watch.dispatch disk e ⟨sheet, .deleted⟩ = (e.cancelSheet sheet).removeSheet sheet := by
  have hclass : watch.filter.classify disk ⟨sheet, .deleted⟩ = some .stylesheet := by
    unfold Filter.classify
    simp [hkind]
  unfold Watch.dispatch
  rw [hclass]

theorem perform_written {sheet : Path} {change : Change}
    (hkind : watch.filter.kindOfPath sheet = some .stylesheet) (hchange : change ≠ .deleted)
    (hfile : disk.isFile sheet = true) :
    w.perform disk (.dispatch watch ⟨sheet, change⟩) = w.perform disk (.scheduleSheet sheet) :=
  congrArg w.onEngine (funext fun _ => dispatch_written hkind hchange hfile)

theorem perform_deleted {sheet : Path}
    (hkind : watch.filter.kindOfPath sheet = some .stylesheet) :
    w.perform disk (.dispatch watch ⟨sheet, .deleted⟩) =
      (w.perform disk (.cancelSheet sheet)).perform disk (.removeSheet sheet) :=
  congrArg w.onEngine (funext fun _ => dispatch_deleted hkind)

theorem UpToDate.written (h : UpToDate disk w) {sheet : Path}
    (haltered : Disk.AlteredAt sheet disk disk') :
    UpToDate disk' (w.perform disk' (.scheduleSheet sheet)) := by
  have hkept : KeptBut w.Awaits w.Queued disk (w.perform disk' (.scheduleSheet sheet)) :=
    ⟨h.kept.index, h.kept.runs, h.kept.queries, h.kept.tasks⟩
  have hpending : ∀ q, (w.perform disk' (.scheduleSheet sheet)).sheetTimers.isPending q =
      ((sheet == q) || w.sheetTimers.isPending q) := Debouncer.isPending_schedule _ sheet
  refine ⟨h.linked, h.timers.schedule sheet,
    hkept.settle (fun q hq hlater => .inl ?_) fun _ hc => hc⟩
  constructor
  · refine fun hbefore => hlater (hbefore.imp_left fun hwaits => ?_)
    rw [hpending, hwaits, Bool.or_true]
  · refine haltered q hq (Bool.eq_false_iff.mpr fun hsame => hlater (.inl ?_))
    rw [hpending, BEq.symm hsame, Bool.true_or]

/-- A stylesheet that is deleted and forgotten is not missed, if no run is past it. -/
theorem UpToDate.deleted (h : UpToDate disk w) {sheet : Path}
    (haltered : Disk.AlteredAt sheet disk disk')
    (htimely : Timely (fun q => w.Awaits q ∨ (q == sheet) = true) w
      ((w.perform disk' (.cancelSheet sheet)).perform disk' (.removeSheet sheet))) :
    UpToDate disk' ((w.perform disk' (.cancelSheet sheet)).perform disk' (.removeSheet sheet)) := by
  let after := (w.perform disk' (.cancelSheet sheet)).perform disk' (.removeSheet sheet)
  have hkeeps := keeps_holdsOnly (yields_upToDate w.Awaits w.Queued disk)
  have hkept : KeptBut w.Awaits w.Queued disk after :=
    (h.kept.perform hkeeps (.cancelSheet sheet) (by simp [Action.jobs])).perform hkeeps
      (.removeSheet sheet) (by simp [Action.jobs])
  have hindex : after.index = w.index.removeSheet sheet := rfl
  refine ⟨h.linked.removeSheet sheet, h.timers.cancel sheet,
    hkept.settle (fun q hq hlater => ?_) fun _ hc => hc⟩
  cases hsame : (q == sheet) with
  | true =>
    refine .inr ⟨⟨?_, fun c k hk hmem => ?_⟩, htimely q (.inr hsame) hlater⟩
    · rw [hindex, removeSheet_cache, Table.get?_erase, if_pos (BEq.symm hsame)]
    · -- no component is left that imports the stylesheet
      rw [hindex] at hk
      have himports : Imports (w.index.removeSheet sheet).components c sheet :=
        ⟨k, hk, List.any_eq_true.mpr ⟨q, hmem, hsame⟩⟩
      obtain ⟨hbefore, hnot⟩ := (h.linked.imports_removeSheet sheet c sheet).mp himports
      exact absurd hbefore hnot
  | false =>
    refine .inl ⟨fun hbefore => hlater (hbefore.imp_left fun hwaits => ?_), haltered q hq hsame⟩
    show (w.sheetTimers.cancel sheet).isPending q = true
    rw [Debouncer.isPending_cancel, hwaits, BEq.comm, hsame]
    rfl

theorem UpToDate.step (h : UpToDate disk w) (hstep : Step watch disk w disk' w') :
    UpToDate disk' w' := by
  cases hstep with
  | act a follows normal timely => exact h.act a follows normal timely
  | write sheet change kind reported altered written =>
    rw [perform_written kind reported written]
    exact h.written altered
  | delete sheet kind altered timely =>
    rw [perform_deleted kind] at timely ⊢
    exact h.deleted altered timely

theorem UpToDate.of_reached (h : Reached watch window disk w) : UpToDate disk w := by
  induction h with
  | start disk => exact upToDate_new window disk
  | step _ last ih => exact ih.step last

/-! ## What components hold -/

/-- **No change of a stylesheet is lost that is followed in time.** In every state of
every run in which no step is too late, a component that no task is still to build
holds for each stylesheet that it imports and that awaits no update the sheet that
reading the file now gives, and none when the file cannot be read. When no update
is awaited at all, it is the component that indexing its imports with nothing known
before gives. -/
theorem no_change_lost (h : Reached watch window disk w) :
    (∀ sheet component k, sheet.IsNormal → ¬ w.Awaits sheet → ¬ w.Queued component →
      w.index.components.get? component = some k → k.imports.any (· == sheet) = true →
        k.sheet? sheet = (Sheet.read disk sheet).toOption) ∧
    ((∀ sheet, ¬ w.Awaits sheet) → ∀ component k, ¬ w.Queued component →
      w.index.components.get? component = some k →
        (Index.indexComponent disk Index.empty k.path k.imports).components.get? component =
          some k) := by
  have hbuilt := (UpToDate.of_reached h).kept.index.built
  have hqueued : ∀ {component k}, w.index.components.get? component = some k →
      ¬ w.Queued component → ¬ w.Queued k.path := by
    rintro component k hk hnot ⟨t, ht, job, hjob, hpath⟩
    exact hnot ⟨t, ht, job, hjob, BEq.trans hpath (hbuilt component k hk).1⟩
  constructor
  · intro sheet component k hnormal hquiet hnot hk himports
    exact (hbuilt component k hk).2.sheet?_eq (hqueued hk hnot) hnormal hquiet himports
  · intro hquiet component k hnot hk
    exact (hbuilt component k hk).2.rebuild (hqueued hk hnot) (fun p _ => hquiet p)
      (hbuilt component k hk).1

/-! ## Updates that begin in time, and too late -/

/-- All updates that fell due have begun. -/
def Begun (w : Workload) : Prop := ∀ p, Task.update p ∉ w.tasks

/-- Once all updates have begun, tasks that move on are in time. -/
theorem Begun.timely (h : w.Begun) (i : Nat) : Timely w.Awaits w (w.stepTask disk i) := by
  intro q hbefore hlater
  refine absurd ?_ hlater
  cases ht : w.tasks[i]? with
  | none =>
    unfold Workload.stepTask
    rwa [ht]
  | some t =>
    refine awaits_stepTask ht (fun p hp => absurd (List.mem_of_getElem? ht) ?_) hbefore
    rw [hp]
    exact h p

theorem Begun.stepTask (h : w.Begun) (i : Nat) : (w.stepTask disk i).Begun := by
  intro p hp
  unfold Workload.stepTask at hp
  split at hp
  · exact h p hp
  · rename_i t ht
    -- no task becomes an update that has not begun
    have hleft : ∀ t', (t.step disk w.index).2 = some t' → t' ≠ .update p := by
      rintro t' ht' rfl
      unfold Task.step at ht'
      split at ht' <;> cases ht'
    simp only at hp
    split at hp
    · rename_i t' ht'
      rcases List.mem_or_eq_of_mem_set hp with hold | heq
      · exact h p hold
      · exact hleft t' ht' heq.symm
    · exact h p (List.mem_of_mem_eraseIdx hp)

/-- Once all updates have begun, tasks may move on in any order. -/
theorem Reached.stepTasks (h : Reached watch window disk w) (hbegun : w.Begun) (order : List Nat) :
    Reached watch window disk (order.foldl (Workload.stepTask disk) w) := by
  induction order generalizing w with
  | nil => exact h
  | cons i rest ih =>
    refine ih (h.step (.act (.stepTask i) rfl (by simp [Action.jobs]) (hbegun.timely i))) ?_
    exact hbegun.stepTask i

theorem fire_eq (ms : Nat) {sheets components : List (Nat × Sleeper Path)}
    (hsheets : w.sheetTimers.dueTasks (w.sheetTimers.now + ms) = sheets)
    (hcomponents : w.componentTimers.dueTasks (w.componentTimers.now + ms) = components) :
    w.fire ms =
      let asleep (d : Debouncer Path) := { d with
        now := d.now + ms
        tasks := d.tasks.filter fun s => (s.due? (d.now + ms)).isNone }
      let (sheetTimers, due) := (asleep w.sheetTimers).wake sheets
      let (componentTimers, due') := (asleep w.componentTimers).wake components
      { w with
        sheetTimers, componentTimers
        tasks := w.tasks ++ (due.map fun e => .update e.2) ++ due'.map fun e => .drop e.2 } := by
  subst hsheets hcomponents
  rfl

namespace Following

/-- Two stylesheets below the root, `/a.css` and `/b.css`. -/
def a : Path := ⟨[0x2F, 0x61, 0x2E, 0x63, 0x73, 0x73]⟩
def b : Path := ⟨[0x2F, 0x62, 0x2E, 0x63, 0x73, 0x73]⟩

/-- A component that imports the first of them, and one that imports both. -/
def c : Path := ⟨[0x2F, 0x63]⟩
def d : Path := ⟨[0x2F, 0x64]⟩

def cssOnly : Watch := ⟨⟨["css".toList], [], []⟩, false, none⟩

/-- The disk at first, then with another text of the first stylesheet that bears
the same time, then without the second one. -/
def first : Disk := (Disk.empty.write a (.text ".x{}".toList) 5).write b (.text ".y{}".toList) 5
def second : Disk := first.write a (.text ".z{}".toList) 5
def third : Disk := second.remove b

/-- Both components are indexed, and both changes are reported. -/
def reported : Workload :=
  (new 1000).performAll
    [(first, .index c [a]), (first, .index d [a, b]),
      (second, .dispatch cssOnly ⟨a, .modified⟩), (third, .dispatch cssOnly ⟨b, .deleted⟩)]

/-- The update of the first stylesheet begins, and goes on to its end. -/
def begun : Workload := (reported.fire 1000).stepTask third 0
def followed : Workload := (List.replicate 7 0).foldl (Workload.stepTask third) begun

theorem fired : reported.fire 1000 = { reported with
    sheetTimers := ⟨1000, 1000, Debouncer.clockReach, 1, Table.empty, []⟩
    componentTimers := ⟨1000, 1000, Debouncer.clockReach, 0, Table.empty, []⟩
    tasks := [.update a] } := by
  have hsheets : reported.sheetTimers.dueTasks 1000 = [(1000, ⟨0, a, some 1000, a⟩)] :=
    List.mergeSort_singleton _
  have hcomponents : reported.componentTimers.dueTasks 1000 = [] := List.mergeSort_nil
  exact fire_eq 1000 hsheets hcomponents

theorem reached : Reached cssOnly 1000 third followed := by
  have ha : a.IsNormal := ⟨rfl, rfl⟩
  have hb : b.IsNormal := ⟨rfl, rfl⟩
  have hwrite : Disk.AlteredAt a first second := by
    refine Disk.alteredAt_write ha (by decide) (fun i hi => ?_) ?_ _ _
    · have hlength : (Disk.location a).length = 1 := rfl
      have hzero : i = 0 := by omega
      rw [hzero]
      exact ⟨2, rfl⟩
    · rintro ⟨n, hn⟩
      cases hn
  have hremove : Disk.AlteredAt b second third := by
    refine Disk.alteredAt_remove hb ⟨2, rfl⟩ ?_
    rintro ⟨n, hn⟩
    cases hn
  have hidle : ∀ w : Workload, w.flight.runs = Table.empty → (∀ t ∈ w.tasks, t.current? = none) →
      ∀ r, ¬ w.Runs r := by
    rintro w hruns htasks r (⟨n, hn⟩ | ⟨t, ht, hcurrent⟩)
    · rw [hruns] at hn
      cases hn
    · rw [htasks t ht] at hcurrent
      cases hcurrent
  have hnone : ∀ t ∈ ([] : List Task), t.current? = none := fun _ ht => by cases ht
  have hnew : Reached cssOnly 1000 first (new 1000) := Reached.start first
  have hindexed := ((hnew.step
    (.act (.index c [a]) rfl (by simp [Action.jobs, ha])
      (timely_of_idle (hidle _ rfl hnone) _ _))).step
    (.act (.index d [a, b]) rfl (by simp [Action.jobs, ha, hb])
      (timely_of_idle (hidle _ rfl hnone) _ _)))
  have hwritten := hindexed.step (.write a .modified rfl (by decide) hwrite rfl)
  have hreported : Reached cssOnly 1000 third reported :=
    hwritten.step (.delete b rfl hremove (timely_of_idle (hidle _ rfl hnone) _ _))
  have hfired : Reached cssOnly 1000 third (reported.fire 1000) :=
    hreported.step (.act (.fire 1000) rfl (by simp [Action.jobs])
      (timely_of_idle (hidle _ rfl hnone) _ _))
  have hbegins : ∀ r, ¬ (reported.fire 1000).Runs r := by
    rw [fired]
    refine hidle _ rfl fun t ht => ?_
    rw [List.mem_singleton.mp ht]
    rfl
  have hbegun : Reached cssOnly 1000 third begun :=
    hfired.step (.act (.stepTask 0) rfl (by simp [Action.jobs]) (timely_of_idle hbegins _ _))
  refine hbegun.stepTasks (fun p hp => ?_) _
  have htasks : begun.tasks = [.build none [(c, [a])]] := by
    unfold begun
    rw [fired]
    rfl
  rw [htasks] at hp
  cases List.mem_singleton.mp hp

theorem followed_eq : followed =
    (List.replicate 7 0).foldl (Workload.stepTask third) (({ reported with
      sheetTimers := ⟨1000, 1000, Debouncer.clockReach, 1, Table.empty, []⟩
      componentTimers := ⟨1000, 1000, Debouncer.clockReach, 0, Table.empty, []⟩
      tasks := [.update a] } : Workload).stepTask third 0) := by
  unfold followed begun
  rw [fired]

end Following

/-- The new text is found although it bears the time of the old one, and the
component that imported the deleted stylesheet is gone. -/
theorem no_change_lost_at_same_time :
    ∃ k, Following.followed.index.components.get? Following.c = some k ∧
      k.sheet? Following.a = (Sheet.read Following.third Following.a).toOption ∧
      (Sheet.read Following.third Following.a).toOption.map (·.content) = some ".z{}".toList ∧
      Following.followed.index.components.get? Following.d = none := by
  have himports : (Following.followed.index.components.get? Following.c).map
      (fun k => k.imports.any (· == Following.a)) = some true := by
    rw [Following.followed_eq]
    decide +kernel
  have hover : Following.followed.tasks = [] ∧
      Following.followed.sheetTimers.pending.entries = [] := by
    rw [Following.followed_eq]
    exact ⟨rfl, rfl⟩
  have hgone : (Following.followed.index.components.get? Following.d).isNone = true := by
    rw [Following.followed_eq]
    decide +kernel
  obtain ⟨k, hk, hany⟩ := Option.map_eq_some_iff.mp himports
  refine ⟨k, hk, ?_, by decide +kernel, Option.isNone_iff_eq_none.mp hgone⟩
  refine (no_change_lost Following.reached).1 Following.a Following.c k ⟨rfl, rfl⟩ ?_ ?_ hk hany
  · rintro (hpending | ⟨p, hp, -⟩)
    · simp [Debouncer.isPending, Table.contains, Table.get?, hover.2, Table.lookup] at hpending
    · rw [hover.1] at hp
      cases hp
  · rintro ⟨t, ht, -⟩
    rw [hover.1] at ht
    cases ht

namespace Following

/-- The disk once the other stylesheet has another text of the same time, too. -/
def both : Disk := second.write b (.text ".w{}".toList) 5

/-- A component that imports both is indexed, and both changes are reported. -/
def awaited : Workload :=
  (new 1000).performAll
    [(first, .index c [b, a]), (second, .dispatch cssOnly ⟨a, .modified⟩),
      (both, .dispatch cssOnly ⟨b, .modified⟩)]

/-- Both updates fall due. The first one begins and finds the other stylesheet in
the cache, the second one goes from its beginning to its end, and then the first one
goes on to its end. -/
def order : List Nat := List.replicate 3 0 ++ List.replicate 12 1 ++ List.replicate 5 0
def crossed : Workload := order.foldl (Workload.stepTask both) (awaited.fire 1000)

theorem awaited_fire : awaited.fire 1000 = { awaited with
    sheetTimers := ⟨1000, 1000, Debouncer.clockReach, 2, Table.empty, []⟩
    componentTimers := ⟨1000, 1000, Debouncer.clockReach, 0, Table.empty, []⟩
    tasks := [.update a, .update b] } := by
  have hsheets : awaited.sheetTimers.dueTasks 1000 =
      [(1000, ⟨0, a, some 1000, a⟩), (1000, ⟨1, b, some 1000, b⟩)] :=
    List.mergeSort_of_pairwise (by decide)
  have hcomponents : awaited.componentTimers.dueTasks 1000 = [] := List.mergeSort_nil
  exact fire_eq 1000 hsheets hcomponents

end Following

/-- A change is lost by two updates of one moment: the first one is past the
stylesheet of the second one when that begins, and ends after it. Nothing is pending
or under way then, and the component still holds the text before the change. -/
theorem change_lost :
    Following.crossed.tasks.isEmpty = true ∧ Following.crossed.engine.pendingCount = 0 ∧
      ((Following.crossed.index.components.get? Following.c).bind (·.sheet? Following.b)).map
        (·.content) = some ".y{}".toList ∧
      (Sheet.read Following.both Following.b).toOption.map (·.content) = some ".w{}".toList := by
  unfold Following.crossed
  rw [Following.awaited_fire]
  decide +kernel

end Workload

end ClassLens
