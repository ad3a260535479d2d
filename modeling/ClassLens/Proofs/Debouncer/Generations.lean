import ClassLens.Engine.Debouncer
import ClassLens.Proofs.Table
import Mathlib.Data.List.Nodup
/-
  Generations — what a debouncer does hangs on the tasks in charge

  A task may outlive its being in charge: if its abort comes too late, it sleeps
  on and wakes. Its number keeps it from doing harm then, for the table holds
  the number of another task, or none. So all that a debouncer does can be told
  from the tasks in charge, and every operation changes these as it would change
  a plain list of deadlines, whichever aborts come too late.

  What is proved:
    1. `Sound.schedule`, `Sound.withdraw`, `Sound.cancelAll`, `Sound.advance` —
       numbers are given once, and every entry of the table has its task;
    2. `Sound.live_schedule`, `live_withdraw`, `live_cancelAll`,
       `Sound.live_advance`, `Sound.advance_ran` — what each operation does to
       the tasks in charge, and which actions run;
    3. `isPending_iff`, `Sound.pendingCount_eq` — what the table tells of them;
    4. `Tidy.schedule`, `Tidy.withdraw`, `Tidy.cancelAll`, `Tidy.advance` — as
       long as no abort comes too late, no other tasks are there.
-/

namespace ClassLens

namespace Debouncer

variable {α : Type} {d : Debouncer α}

/-- The tasks in charge of their paths, in the order they began. -/
def live (d : Debouncer α) : List (Sleeper α) := d.tasks.filter d.inCharge

/-- The state of a debouncer that started empty. -/
structure Sound (d : Debouncer α) : Prop where
  distinct : d.pending.Distinct
  /-- Tasks bear their numbers in the order they began. -/
  numbered : d.tasks.Pairwise fun a b => a.generation < b.generation
  fresh : ∀ s ∈ d.tasks, s.generation < d.nextGeneration
  /-- The task in charge of a path is there. -/
  asleep : ∀ path g, d.pending.get? path = some g →
    ∃ s ∈ d.tasks, s.generation = g ∧ (s.path == path) = true

theorem inCharge_iff {s : Sleeper α} :
    d.inCharge s = true ↔ d.pending.get? s.path = some s.generation := by
  simp [inCharge]

theorem mem_live {s : Sleeper α} :
    s ∈ d.live ↔ s ∈ d.tasks ∧ d.pending.get? s.path = some s.generation := by
  rw [live, List.mem_filter, inCharge_iff]

theorem sound_new (window reach : Nat) : Sound (new window reach : Debouncer α) where
  distinct := Table.distinct_empty
  numbered := List.Pairwise.nil
  fresh := fun _ h => by cases h
  asleep := fun _ _ h => by cases h

namespace Sound

theorem nodup (h : Sound d) : (d.tasks.map (·.generation)).Nodup :=
  List.pairwise_map.mpr (h.numbered.imp fun hlt => Nat.ne_of_lt hlt)

theorem eq_of_generation (h : Sound d) {s t : Sleeper α} (hs : s ∈ d.tasks) (ht : t ∈ d.tasks)
    (heq : s.generation = t.generation) : s = t :=
  List.inj_on_of_nodup_map h.nodup hs ht heq

theorem path_of_get? (h : Sound d) {path : Path} {s : Sleeper α} (hs : s ∈ d.tasks)
    (hget : d.pending.get? path = some s.generation) : (s.path == path) = true := by
  obtain ⟨t, ht, hgen, hpath⟩ := h.asleep path _ hget
  rwa [h.eq_of_generation ht hs hgen] at hpath

theorem exists_live (h : Sound d) {path : Path} {g : Nat} (hget : d.pending.get? path = some g) :
    ∃ s ∈ d.live, s.generation = g ∧ (s.path == path) = true := by
  obtain ⟨s, hs, hgen, hpath⟩ := h.asleep path g hget
  refine ⟨s, mem_live.mpr ⟨hs, ?_⟩, hgen, hpath⟩
  rw [Table.get?_congr _ hpath, hget, hgen]

theorem eq_of_path (h : Sound d) {s t : Sleeper α} (hs : s ∈ d.live) (ht : t ∈ d.live)
    (heq : (s.path == t.path) = true) : s = t := by
  obtain ⟨hs, hcharge⟩ := mem_live.mp hs
  obtain ⟨ht, hcharge'⟩ := mem_live.mp ht
  rw [Table.get?_congr _ heq, hcharge'] at hcharge
  exact h.eq_of_generation hs ht (Option.some.inj hcharge).symm

end Sound

/-! ## Aborts -/

theorem abort_rest (late : Nat → Bool) (d : Debouncer α) (g : Nat) :
    d.abort late g = { d with tasks := (d.abort late g).tasks } := by
  unfold abort
  split <;> rfl

@[simp] theorem abort_pending (late : Nat → Bool) (d : Debouncer α) (g : Nat) :
    (d.abort late g).pending = d.pending := by
  rw [abort_rest]

theorem abort_sublist (late : Nat → Bool) (d : Debouncer α) (g : Nat) :
    (d.abort late g).tasks.Sublist d.tasks := by
  unfold abort
  split
  · exact List.Sublist.refl _
  · exact List.filter_sublist

theorem mem_abort (late : Nat → Bool) {g : Nat} {s : Sleeper α} (hs : s ∈ d.tasks)
    (hne : s.generation ≠ g) : s ∈ (d.abort late g).tasks := by
  unfold abort
  split
  · exact hs
  · exact List.mem_filter.mpr ⟨hs, by simpa using hne⟩

/-- To abort a task that is not in charge changes nothing for those that are. -/
theorem live_abort (late : Nat → Bool) {g : Nat}
    (hfree : ∀ path, d.pending.get? path ≠ some g) : (d.abort late g).live = d.live := by
  unfold live abort
  split
  · rfl
  · show (d.tasks.filter _).filter d.inCharge = _
    rw [List.filter_filter]
    refine List.filter_congr fun s _ => ?_
    cases hcharge : d.inCharge s with
    | false => rfl
    | true =>
      have hne : s.generation ≠ g := fun heq => hfree s.path (heq ▸ inCharge_iff.mp hcharge)
      simpa using hne

theorem Sound.abort (h : Sound d) (late : Nat → Bool) {g : Nat}
    (hfree : ∀ path, d.pending.get? path ≠ some g) : Sound (d.abort late g) where
  distinct := by
    rw [abort_pending]
    exact h.distinct
  numbered := h.numbered.sublist (abort_sublist late d g)
  fresh := by
    intro s hs
    rw [abort_rest]
    exact h.fresh s ((abort_sublist late d g).subset hs)
  asleep := by
    intro path g' hget
    rw [abort_pending] at hget
    obtain ⟨s, hs, hgen, hpath⟩ := h.asleep path g' hget
    refine ⟨s, mem_abort late hs ?_, hgen, hpath⟩
    rintro rfl
    exact hfree path (hgen ▸ hget)

/-! ## Scheduling -/

/-- The task that an action scheduled now starts. -/
def starting (d : Debouncer α) (path : Path) (action : α) : Sleeper α :=
  ⟨d.nextGeneration, path, d.deadline, action⟩

/-- The debouncer once the task has begun, before the one it replaces is aborted. -/
def begun (d : Debouncer α) (path : Path) (action : α) : Debouncer α :=
  { d with
    nextGeneration := d.nextGeneration + 1
    pending := d.pending.insert path d.nextGeneration
    tasks := d.tasks ++ [d.starting path action] }

theorem schedule_eq (d : Debouncer α) (path : Path) (action : α) (late : Nat → Bool) :
    d.schedule path action late =
      match d.pending.get? path with
      | some previous => (d.begun path action).abort late previous
      | none => d.begun path action := rfl

theorem schedule_rest (d : Debouncer α) (path : Path) (action : α) (late : Nat → Bool) :
    d.schedule path action late =
      { d.begun path action with tasks := (d.schedule path action late).tasks } := by
  rw [schedule_eq]
  split
  · exact abort_rest late _ _
  · rfl

theorem Sound.begun (h : Sound d) (path : Path) (action : α) : Sound (d.begun path action) where
  distinct := Table.distinct_insert h.distinct _ _
  numbered := by
    refine List.pairwise_append.mpr ⟨h.numbered, List.pairwise_singleton _ _, fun s hs t ht => ?_⟩
    rw [List.mem_singleton.mp ht]
    exact h.fresh s hs
  fresh := by
    intro s hs
    show s.generation < d.nextGeneration + 1
    rcases List.mem_append.mp hs with hs | hs
    · have := h.fresh s hs
      omega
    · rw [List.mem_singleton.mp hs]
      exact Nat.lt_succ_self _
  asleep := by
    intro q g hget
    have hget : (d.pending.insert path d.nextGeneration).get? q = some g := hget
    rw [Table.get?_insert] at hget
    split at hget
    · rename_i hq
      exact ⟨d.starting path action, by simp [Debouncer.begun], Option.some.inj hget, hq⟩
    · obtain ⟨s, hs, hgen, hpath⟩ := h.asleep q g hget
      exact ⟨s, List.mem_append_left _ hs, hgen, hpath⟩

/-- A task that was there is in charge after another one has begun if it was in
charge before and the other one is for another path. -/
theorem Sound.inCharge_begun (h : Sound d) (path : Path) (action : α) {s : Sleeper α}
    (hs : s ∈ d.tasks) :
    (d.begun path action).inCharge s = (d.inCharge s && !(path == s.path)) := by
  have hold := Nat.ne_of_lt (h.fresh s hs)
  show ((d.pending.insert path d.nextGeneration).get? s.path == some s.generation) = _
  rw [Table.get?_insert]
  unfold inCharge
  cases path == s.path with
  | true => simpa using hold.symm
  | false => simp

theorem Sound.live_begun (h : Sound d) (path : Path) (action : α) :
    (d.begun path action).live =
      d.live.filter (fun s => !(path == s.path)) ++ [d.starting path action] := by
  have hnew : (d.begun path action).inCharge (d.starting path action) = true :=
    inCharge_iff.mpr ((Table.get?_insert _ _ _ _).trans (if_pos BEq.rfl))
  unfold live
  show List.filter _ (d.tasks ++ [_]) = _
  rw [List.filter_append, List.filter_filter, List.filter_cons, if_pos hnew, List.filter_nil]
  congr 1
  refine List.filter_congr fun s hs => ?_
  rw [h.inCharge_begun path action hs, Bool.and_comm]

theorem Sound.begun_free (h : Sound d) {path : Path} (action : α) {previous : Nat}
    (hprevious : d.pending.get? path = some previous) (q : Path) :
    (d.begun path action).pending.get? q ≠ some previous := by
  show (d.pending.insert path d.nextGeneration).get? q ≠ _
  obtain ⟨s, hs, rfl, hpath⟩ := h.asleep path previous hprevious
  rw [Table.get?_insert]
  split
  · have := h.fresh s hs
    intro heq
    have := Option.some.inj heq
    omega
  · rename_i hq
    intro hget
    exact hq (BEq.trans (BEq.symm hpath) (h.path_of_get? hs hget))

/-- An action that is scheduled takes the place of the one for its path. -/
theorem Sound.live_schedule (h : Sound d) (path : Path) (action : α) (late : Nat → Bool) :
    (d.schedule path action late).live =
      d.live.filter (fun s => !(path == s.path)) ++ [d.starting path action] := by
  rw [schedule_eq, ← h.live_begun path action]
  split
  · rename_i previous hprevious
    exact live_abort late (h.begun_free action hprevious)
  · rfl

theorem Sound.schedule (h : Sound d) (path : Path) (action : α) (late : Nat → Bool) :
    Sound (d.schedule path action late) := by
  rw [schedule_eq]
  split
  · rename_i previous hprevious
    exact (h.begun path action).abort late (h.begun_free action hprevious)
  · exact h.begun path action

/-! ## Cancelling -/

/-- The debouncer with nothing pending for a path. -/
def freed (d : Debouncer α) (path : Path) : Debouncer α :=
  { d with pending := d.pending.erase path }

theorem withdraw_eq (d : Debouncer α) (path : Path) (late : Nat → Bool) :
    d.withdraw path late =
      match d.pending.get? path with
      | some generation => ((d.freed path).abort late generation, true)
      | none => (d, false) := rfl

theorem withdraw_rest (d : Debouncer α) (path : Path) (late : Nat → Bool) :
    (d.withdraw path late).1 =
      { d with
        pending := (d.withdraw path late).1.pending
        tasks := (d.withdraw path late).1.tasks } := by
  rw [withdraw_eq]
  split
  · simp only [abort_pending]
    exact abort_rest late _ _
  · rfl

theorem Sound.freed (h : Sound d) (path : Path) : Sound (d.freed path) where
  distinct := Table.distinct_erase h.distinct _
  numbered := h.numbered
  fresh := h.fresh
  asleep := by
    intro q g hget
    have hget : (d.pending.erase path).get? q = some g := hget
    rw [Table.get?_erase] at hget
    split at hget
    · cases hget
    · exact h.asleep q g hget

theorem live_freed (d : Debouncer α) (path : Path) :
    (d.freed path).live = d.live.filter fun s => !(path == s.path) := by
  unfold live
  rw [List.filter_filter]
  refine List.filter_congr fun s _ => ?_
  show ((d.pending.erase path).get? s.path == some s.generation) = _
  rw [Table.get?_erase]
  unfold inCharge
  cases path == s.path <;> simp

theorem Sound.freed_free (h : Sound d) {path : Path} {g : Nat}
    (hg : d.pending.get? path = some g) (q : Path) : (d.freed path).pending.get? q ≠ some g := by
  show (d.pending.erase path).get? q ≠ _
  obtain ⟨s, hs, rfl, hpath⟩ := h.asleep path g hg
  rw [Table.get?_erase]
  split
  · intro hget
    cases hget
  · rename_i hq
    intro hget
    exact hq (BEq.trans (BEq.symm hpath) (h.path_of_get? hs hget))

theorem Sound.live_withdraw (h : Sound d) (path : Path) (late : Nat → Bool) :
    (d.withdraw path late).1.live = d.live.filter fun s => !(path == s.path) := by
  rw [withdraw_eq]
  split
  · rename_i g hg
    rw [← live_freed d path]
    exact live_abort late (h.freed_free hg)
  · rename_i hnone
    refine (List.filter_eq_self.mpr fun s hs => ?_).symm
    obtain ⟨-, hcharge⟩ := mem_live.mp hs
    rw [Bool.not_eq_true', Bool.eq_false_iff]
    intro hpath
    rw [← Table.get?_congr _ hpath, hnone] at hcharge
    cases hcharge

theorem Sound.withdraw (h : Sound d) (path : Path) (late : Nat → Bool) :
    Sound (d.withdraw path late).1 := by
  rw [withdraw_eq]
  split
  · rename_i g hg
    exact (h.freed path).abort late (h.freed_free hg)
  · exact h

theorem foldl_abort_rest (late : Nat → Bool) (gs : List Nat) (d : Debouncer α) :
    gs.foldl (Debouncer.abort late) d =
      { d with tasks := (gs.foldl (Debouncer.abort late) d).tasks } := by
  induction gs generalizing d with
  | nil => rfl
  | cons g gs ih =>
    rw [List.foldl_cons, ih, abort_rest]

theorem cancelAll_rest (d : Debouncer α) (late : Nat → Bool) :
    d.cancelAll late =
      { d with pending := Table.empty, tasks := (d.cancelAll late).tasks } :=
  foldl_abort_rest late _ _

theorem live_cancelAll (d : Debouncer α) (late : Nat → Bool) : (d.cancelAll late).live = [] := by
  unfold live
  refine List.filter_eq_nil_iff.mpr fun s _ hcharge => ?_
  rw [cancelAll_rest] at hcharge
  cases inCharge_iff.mp hcharge

theorem Sound.cancelAll (h : Sound d) (late : Nat → Bool) : Sound (d.cancelAll late) := by
  unfold Debouncer.cancelAll
  have hempty : Sound { d with pending := Table.empty } :=
    { distinct := Table.distinct_empty
      numbered := h.numbered
      fresh := h.fresh
      asleep := fun _ _ hget => by cases hget }
  refine List.foldlRecOn (motive := fun d : Debouncer α => Sound d ∧ d.pending = Table.empty)
    _ _ ⟨hempty, rfl⟩ (fun d hd g _ => ⟨?_, ?_⟩) |>.1
  · refine hd.1.abort late fun path => ?_
    rw [hd.2]
    intro hget
    cases hget
  · rw [abort_pending, hd.2]

theorem Sound.setWindow (h : Sound d) (ms : Nat) : Sound (d.setWindow ms) :=
  ⟨h.distinct, h.numbered, h.fresh, h.asleep⟩

theorem live_setWindow (d : Debouncer α) (ms : Nat) : (d.setWindow ms).live = d.live := rfl

/-! ## Time -/

/-- What a task gives when the clock comes to a time. -/
def dueOf (time : Nat) (s : Sleeper α) : Option (Nat × α) :=
  (s.due? time).map fun deadline => (deadline, s.action)

/-- Among tasks that wake, those that were in charge before run, whatever the others do. -/
theorem wake_ran {due : List (Nat × Sleeper α)}
    (hdue : due.Pairwise fun a b => a.2.generation ≠ b.2.generation) (d : Debouncer α) :
    (d.wake due).2 = (due.filter fun e => d.inCharge e.2).map fun e => (e.1, e.2.action) := by
  induction due generalizing d with
  | nil => rfl
  | cons e rest ih =>
    obtain ⟨time, s⟩ := e
    obtain ⟨hhead, htail⟩ := List.pairwise_cons.mp hdue
    rw [wake, List.filter_cons]
    by_cases hs : d.inCharge s = true
    · -- only the task itself had the number that its path has now
      have hrest : (rest.filter fun e => (d.freed s.path).inCharge e.2) =
          rest.filter fun e => d.inCharge e.2 := by
        refine List.filter_congr fun e he => ?_
        show ((d.pending.erase s.path).get? e.2.path == some e.2.generation) = _
        rw [Table.get?_erase]
        split
        · rename_i hpath
          unfold inCharge
          rw [← Table.get?_congr _ hpath, inCharge_iff.mp hs]
          simpa using hhead e he
        · rfl
      rw [if_pos hs, if_pos hs, List.map_cons, ← hrest]
      exact congrArg (_ :: ·) (ih htail _)
    · rw [if_neg hs, if_neg hs]
      exact ih htail d

theorem wake_get? (due : List (Nat × Sleeper α)) (d : Debouncer α) (q : Path) (g : Nat) :
    (d.wake due).1.pending.get? q = some g ↔
      d.pending.get? q = some g ∧
        ∀ e ∈ due, e.2.generation = g → ¬ (e.2.path == q) = true := by
  induction due generalizing d with
  | nil => simp [wake]
  | cons e rest ih =>
    obtain ⟨time, s⟩ := e
    rw [wake]
    by_cases hs : d.inCharge s = true
    · rw [if_pos hs]
      show ((d.freed s.path).wake rest).1.pending.get? q = some g ↔ _
      rw [ih]
      show (d.pending.erase s.path).get? q = some g ∧ _ ↔ _
      rw [Table.get?_erase, List.forall_mem_cons]
      by_cases hq : (s.path == q) = true
      · have hnumber : d.pending.get? q = some g → s.generation = g := by
          rw [← Table.get?_congr _ hq, inCharge_iff.mp hs]
          exact Option.some.inj
        simp only [hq]
        grind
      · simp [hq]
    · rw [if_neg hs, ih, List.forall_mem_cons]
      refine and_congr_right fun hget => (and_iff_right ?_).symm
      rintro rfl hq
      exact hs (inCharge_iff.mpr ((Table.get?_congr _ hq).trans hget))

theorem distinct_wake (due : List (Nat × Sleeper α)) (h : d.pending.Distinct) :
    (d.wake due).1.pending.Distinct := by
  induction due generalizing d with
  | nil => exact h
  | cons e rest ih =>
    rw [wake]
    split
    · exact ih (Table.distinct_erase h _)
    · exact ih h

theorem wake_rest (due : List (Nat × Sleeper α)) (d : Debouncer α) :
    (d.wake due).1 = { d with pending := (d.wake due).1.pending } := by
  induction due generalizing d with
  | nil => rfl
  | cons e rest ih =>
    rw [wake]
    split
    · exact ih (d.freed _)
    · exact ih d

theorem mem_dueTasks {time : Nat} {e : Nat × Sleeper α} :
    e ∈ d.dueTasks time ↔ e.2 ∈ d.tasks ∧ e.2.due? time = some e.1 := by
  rw [dueTasks, (List.mergeSort_perm _ _).mem_iff, List.mem_filterMap]
  constructor
  · rintro ⟨s, hs, hdue⟩
    obtain ⟨deadline, hdeadline, rfl⟩ := Option.map_eq_some_iff.mp hdue
    exact ⟨hs, hdeadline⟩
  · rintro ⟨hs, hdue⟩
    exact ⟨e.2, hs, by rw [hdue]; rfl⟩

theorem Sound.dueTasks_numbers (h : Sound d) (time : Nat) :
    (d.dueTasks time).Pairwise fun a b => a.2.generation ≠ b.2.generation := by
  unfold dueTasks
  refine (List.mergeSort_perm _ _).symm.pairwise (List.pairwise_filterMap.mpr ?_)
    fun hne => Ne.symm hne
  refine h.numbered.imp fun {s t} hlt a ha b hb => ?_
  obtain ⟨_, -, rfl⟩ := Option.map_eq_some_iff.mp ha
  obtain ⟨_, -, rfl⟩ := Option.map_eq_some_iff.mp hb
  exact Nat.ne_of_lt hlt

theorem advance_eq (d : Debouncer α) (ms : Nat) :
    d.advance ms =
      wake { d with
        now := d.now + ms
        tasks := d.tasks.filter fun s => (s.due? (d.now + ms)).isNone } (d.dueTasks (d.now + ms)) :=
  rfl

/-- What runs as time moves on: what falls due of the tasks in charge, in order of deadlines. -/
theorem Sound.advance_ran (h : Sound d) (ms : Nat) :
    List.Perm (d.advance ms).2 (d.live.filterMap (dueOf (d.now + ms))) ∧
      (d.advance ms).2.Pairwise fun a b => a.1 ≤ b.1 := by
  have hran : (d.advance ms).2 =
      ((d.dueTasks (d.now + ms)).filter fun e => d.inCharge e.2).map
        fun e => (e.1, e.2.action) := by
    rw [advance_eq, wake_ran (h.dueTasks_numbers _)]
    rfl
  rw [hran]
  constructor
  · refine (((List.mergeSort_perm _ _).filter _).map _).trans (List.Perm.of_eq ?_)
    unfold live dueOf
    induction d.tasks with
    | nil => rfl
    | cons s rest ih =>
      cases hdue : s.due? (d.now + ms) <;> cases hs : d.inCharge s <;>
        simp [hdue, hs, ih]
  · have hsorted : (d.dueTasks (d.now + ms)).Pairwise fun a b => decide (a.1 ≤ b.1) = true :=
      List.pairwise_mergeSort (fun a b c hab hbc => by simp only [decide_eq_true_eq] at *; omega)
        (fun a b => by simp only [Bool.or_eq_true, decide_eq_true_eq]; omega) _
    exact List.pairwise_map.mpr ((hsorted.filter _).imp fun hle => by simpa using hle)

theorem Sound.inCharge_advance (h : Sound d) (ms : Nat) {s : Sleeper α} (hs : s ∈ d.tasks)
    (hdue : s.due? (d.now + ms) = none) : (d.advance ms).1.inCharge s = d.inCharge s := by
  rw [Bool.eq_iff_iff, inCharge_iff, inCharge_iff, advance_eq, wake_get?]
  refine and_iff_left fun e he hnumber _ => ?_
  -- a task of the same number would be the same, and that is not due
  obtain ⟨htask, htime⟩ := mem_dueTasks.mp he
  rw [h.eq_of_generation htask hs hnumber, hdue] at htime
  cases htime

theorem advance_rest (d : Debouncer α) (ms : Nat) :
    (d.advance ms).1 =
      { d with
        now := d.now + ms
        tasks := d.tasks.filter fun s => (s.due? (d.now + ms)).isNone
        pending := (d.advance ms).1.pending } :=
  wake_rest _ _

theorem advance_tasks (d : Debouncer α) (ms : Nat) :
    (d.advance ms).1.tasks = d.tasks.filter fun s => (s.due? (d.now + ms)).isNone := by
  rw [advance_rest]

/-- What is in charge after a while was in charge before and is not due. -/
theorem Sound.live_advance (h : Sound d) (ms : Nat) :
    (d.advance ms).1.live = d.live.filter fun s => (s.due? (d.now + ms)).isNone := by
  unfold live
  rw [advance_tasks, List.filter_filter, List.filter_filter]
  refine List.filter_congr fun s hs => ?_
  cases hdue : s.due? (d.now + ms) with
  | some deadline => simp
  | none => simp [h.inCharge_advance ms hs hdue]

theorem Sound.advance (h : Sound d) (ms : Nat) : Sound (d.advance ms).1 where
  distinct := by
    rw [advance_eq]
    exact distinct_wake _ h.distinct
  numbered := by
    rw [advance_tasks]
    exact h.numbered.filter _
  fresh := by
    intro s hs
    rw [advance_tasks] at hs
    rw [advance_eq, wake_rest]
    exact h.fresh s (List.mem_filter.mp hs).1
  asleep := by
    intro path g hget
    rw [advance_eq, wake_get?] at hget
    obtain ⟨hget, hothers⟩ := hget
    obtain ⟨s, hs, hgen, hpath⟩ := h.asleep path g hget
    refine ⟨s, ?_, hgen, hpath⟩
    rw [advance_tasks, List.mem_filter, Option.isNone_iff_eq_none]
    refine ⟨hs, Option.eq_none_iff_forall_ne_some.mpr fun deadline hdue => ?_⟩
    exact hothers (deadline, s) (mem_dueTasks.mpr ⟨hs, hdue⟩) hgen hpath

/-! ## What the table tells -/

theorem Sound.isPending_iff (h : Sound d) (path : Path) :
    d.isPending path = true ↔ ∃ s ∈ d.live, (s.path == path) = true := by
  rw [isPending, Table.contains, Option.isSome_iff_exists]
  constructor
  · rintro ⟨g, hget⟩
    obtain ⟨s, hs, -, hpath⟩ := h.exists_live hget
    exact ⟨s, hs, hpath⟩
  · rintro ⟨s, hs, hpath⟩
    exact ⟨s.generation, by rw [← Table.get?_congr _ hpath, (mem_live.mp hs).2]⟩

theorem Sound.values_perm (h : Sound d) :
    List.Perm d.pending.values (d.live.map (·.generation)) := by
  have hlive : (d.live.map (·.generation)).Nodup :=
    h.nodup.sublist (List.filter_sublist.map _)
  have hvalues : d.pending.values.Nodup := by
    refine List.pairwise_map.mpr (h.distinct.imp_of_mem fun {a b} ha hb hne heq => ?_)
    -- one number would stand for two tasks
    obtain ⟨s, hs, hgen, hpath⟩ := h.asleep a.1 a.2 (Table.get?_of_mem h.distinct ha BEq.rfl)
    have hother := Table.get?_of_mem h.distinct hb BEq.rfl
    rw [← heq, ← hgen] at hother
    rw [BEq.trans (BEq.symm hpath) (h.path_of_get? hs hother)] at hne
    cases hne
  refine (List.perm_ext_iff_of_nodup hvalues hlive).mpr fun g => ?_
  rw [List.mem_map, Table.values, List.mem_map]
  constructor
  · rintro ⟨⟨path, g⟩, hentry, rfl⟩
    obtain ⟨s, hs, hgen, -⟩ := h.exists_live (Table.get?_of_mem h.distinct hentry BEq.rfl)
    exact ⟨s, hs, hgen⟩
  · rintro ⟨s, hs, rfl⟩
    obtain ⟨key, hentry, -⟩ := Table.mem_of_get? (mem_live.mp hs).2
    exact ⟨(key, s.generation), hentry, rfl⟩

theorem Sound.pendingCount_eq (h : Sound d) : d.pendingCount = d.live.length := by
  have hlength := h.values_perm.length_eq
  rw [Table.values, List.length_map, List.length_map] at hlength
  exact hlength

theorem withdraw_answer (d : Debouncer α) (path : Path) (late : Nat → Bool) :
    (d.withdraw path late).2 = d.isPending path := by
  rw [withdraw_eq, isPending, Table.contains]
  split <;> rename_i hget <;> rw [hget] <;> rfl

theorem withdraw_pending (d : Debouncer α) (path : Path) (late : Nat → Bool) :
    (d.withdraw path late).1.pending = d.pending.erase path := by
  rw [withdraw_eq]
  split
  · exact abort_pending late _ _
  · rename_i hnone
    exact (Table.erase_of_get?_eq_none hnone).symm

/-! ## Aborts in time -/

/-- All tasks are in charge. -/
def Tidy (d : Debouncer α) : Prop := d.live = d.tasks

theorem tidy_iff : Tidy d ↔ ∀ s ∈ d.tasks, d.inCharge s = true := List.filter_eq_self

theorem abort_inTime (d : Debouncer α) (g : Nat) :
    (d.abort inTime g).tasks = d.tasks.filter fun s => !(s.generation == g) := rfl

theorem Tidy.schedule (ht : Tidy d) (h : Sound d) (path : Path) (action : α) :
    Tidy (d.schedule path action) := by
  rw [tidy_iff] at ht
  have hbegun : ∀ s ∈ (d.begun path action).tasks, d.pending.get? path ≠ some s.generation →
      (d.begun path action).inCharge s = true := by
    intro s hs hother
    rcases List.mem_append.mp hs with hs | hs
    · rw [h.inCharge_begun path action hs, ht s hs, Bool.true_and, Bool.not_eq_true',
        Bool.eq_false_iff]
      intro hpath
      rw [Table.get?_congr _ hpath] at hother
      exact hother (inCharge_iff.mp (ht s hs))
    · rw [List.mem_singleton.mp hs]
      exact inCharge_iff.mpr ((Table.get?_insert _ _ _ _).trans (if_pos BEq.rfl))
  rw [schedule_eq]
  split
  · rename_i previous hprevious
    rw [tidy_iff, abort_inTime]
    intro s hs
    obtain ⟨hs, hne⟩ := List.mem_filter.mp hs
    refine hbegun s hs ?_
    rw [hprevious]
    simpa using Ne.symm (by simpa using hne)
  · rename_i hnone
    refine tidy_iff.mpr fun s hs => hbegun s hs ?_
    rw [hnone]
    simp

theorem Tidy.withdraw (ht : Tidy d) (path : Path) : Tidy (d.withdraw path).1 := by
  rw [withdraw_eq]
  split
  · rename_i g hg
    rw [tidy_iff] at ht ⊢
    intro s hs
    obtain ⟨hs, hne⟩ := List.mem_filter.mp hs
    have hcharge := inCharge_iff.mp (ht s hs)
    have hother : ¬ (path == s.path) = true := by
      intro hpath
      rw [← Table.get?_congr _ hpath, hg] at hcharge
      simp [Option.some.inj hcharge] at hne
    refine inCharge_iff.mpr ?_
    show (d.pending.erase path).get? s.path = _
    rw [Table.get?_erase, if_neg hother, hcharge]
  · exact ht

theorem foldl_abort_inTime (gs : List Nat) (d : Debouncer α) :
    (gs.foldl (Debouncer.abort inTime) d).tasks =
      d.tasks.filter fun s => !gs.contains s.generation := by
  induction gs generalizing d with
  | nil => simp
  | cons g gs ih =>
    rw [List.foldl_cons, ih, abort_inTime, List.filter_filter]
    refine List.filter_congr fun s _ => ?_
    rw [List.contains_cons, Bool.not_or, Bool.and_comm]

theorem Tidy.cancelAll (ht : Tidy d) : Tidy d.cancelAll := by
  have hnone : d.cancelAll.tasks = [] := by
    unfold Debouncer.cancelAll
    rw [foldl_abort_inTime, List.filter_eq_nil_iff]
    intro s hs
    -- every task is in charge, so its number is in the table
    obtain ⟨key, hentry, -⟩ := Table.mem_of_get? (inCharge_iff.mp (tidy_iff.mp ht s hs))
    have hvalue : s.generation ∈ d.pending.values := List.mem_map.mpr ⟨_, hentry, rfl⟩
    simpa using hvalue
  unfold Tidy
  rw [live_cancelAll, hnone]

theorem Tidy.advance (ht : Tidy d) (h : Sound d) (ms : Nat) : Tidy (d.advance ms).1 := by
  unfold Tidy
  rw [h.live_advance, advance_tasks, ht]

theorem Sound.length_tasks (h : Sound d) (ht : Tidy d) : d.tasks.length = d.pendingCount := by
  rw [h.pendingCount_eq, ht]

end Debouncer

end ClassLens
