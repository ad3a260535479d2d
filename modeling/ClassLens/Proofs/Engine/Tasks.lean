import ClassLens.Engine.Task
import ClassLens.Proofs.Flight.Turns
/-
  Tasks — what turns of tasks keep, and that they come to an end

  Tasks that work on one index take turns, and a turn is a number of steps. So
  what every step of a task keeps, every turn of every task keeps, and carrying
  all of them out keeps it too. Every turn of a task that has begun brings its
  end nearer, so no task is left over.

  What is proved:
    1. `complete_keeps` — from one step to the end of all tasks;
    2. `step_stepsLeft`, `turn_stepsLeft` — a step and a turn have less to do;
    3. `rounds_done`, `complete_done` — no task is left.
-/

namespace ClassLens

namespace Task

variable {disk : Disk}

/-! ## What every step keeps -/

/-- What a step of a task keeps, of the index and of the tasks. -/
def StepKeeps (disk : Disk) (I : Index → Prop) (T : Task → Prop) : Prop :=
  ∀ idx t, I idx → T t → I (t.step disk idx).1 ∧ ∀ t', (t.step disk idx).2 = some t' → T t'

section Keeps

variable {I : Index → Prop} {T : Task → Prop} {idx : Index}

theorem toDisk_keeps (h : StepKeeps disk I T) (n : Nat) {t : Task} (hidx : I idx) (ht : T t) :
    I (toDisk disk n idx t).1 ∧ ∀ t', (toDisk disk n idx t).2 = some t' → T t' := by
  induction n generalizing idx t with
  | zero =>
    refine ⟨hidx, fun t' ht' => ?_⟩
    cases ht'
    exact ht
  | succ n ih =>
    rw [toDisk]
    split
    · refine ⟨hidx, fun t' ht' => ?_⟩
      cases ht'
      exact ht
    · obtain ⟨hindex, hleft⟩ := h idx t hidx ht
      split
      · rename_i idx' t' hstep
        rw [hstep] at hindex hleft
        exact ih hindex (hleft t' rfl)
      · rename_i idx' hstep
        rw [hstep] at hindex
        exact ⟨hindex, fun t' ht' => by cases ht'⟩

theorem turn_keeps (h : StepKeeps disk I T) {t : Task} (hidx : I idx) (ht : T t) :
    I (t.turn disk idx).1 ∧ ∀ t', (t.turn disk idx).2 = some t' → T t' := by
  obtain ⟨hindex, hleft⟩ := h idx t hidx ht
  unfold turn
  split
  · rename_i idx' t' hstep
    rw [hstep] at hindex hleft
    exact toDisk_keeps h _ hindex (hleft t' rfl)
  · rename_i idx' hstep
    rw [hstep] at hindex
    exact ⟨hindex, fun t' ht' => by cases ht'⟩

theorem turns_keeps (h : StepKeeps disk I T) {tasks : List Task} (hidx : I idx)
    (htasks : ∀ t ∈ tasks, T t) :
    I (turns disk idx tasks).1 ∧ ∀ t ∈ (turns disk idx tasks).2, T t := by
  induction tasks generalizing idx with
  | nil => exact ⟨hidx, htasks⟩
  | cons t rest ih =>
    obtain ⟨hindex, hleft⟩ := turn_keeps h hidx (htasks t List.mem_cons_self)
    obtain ⟨hindex', hothers⟩ := ih hindex fun t' ht' => htasks t' (List.mem_cons_of_mem t ht')
    refine ⟨hindex', fun t' ht' => ?_⟩
    rcases List.mem_append.mp ht' with ht' | ht'
    · exact hleft t' (Option.mem_toList.mp ht')
    · exact hothers t' ht'

theorem rounds_keeps (h : StepKeeps disk I T) (n : Nat) {tasks : List Task} (hidx : I idx)
    (htasks : ∀ t ∈ tasks, T t) : I (rounds disk n idx tasks).1 := by
  induction n generalizing idx tasks with
  | zero => exact hidx
  | succ n ih =>
    obtain ⟨hindex, hleft⟩ := turns_keeps h hidx htasks
    exact ih hindex hleft

/-- What every step of a task keeps lasts until all tasks are over. -/
theorem complete_keeps (h : StepKeeps disk I T) {tasks : List Task} (hidx : I idx)
    (htasks : ∀ t ∈ tasks, T t) : I (complete disk idx tasks) := by
  obtain ⟨hindex, hleft⟩ := turns_keeps h hidx htasks
  exact rounds_keeps h _ hindex hleft

end Keeps

/-! ## No task is left -/

/-- The task has collected what it is to build. -/
def HasBegun (t : Task) : Prop := 0 < t.stepsLeft

theorem hasBegun_build (current : Option Run) (queue : List (Path × List Path)) :
    HasBegun (.build current queue) := Nat.succ_pos _

/-- A task has begun after its first step, and every further step leaves less to do. -/
theorem step_stepsLeft {idx idx' : Index} {t t' : Task} (h : t.step disk idx = (idx', some t')) :
    t'.HasBegun ∧ (t.HasBegun → t'.stepsLeft < t.stepsLeft) := by
  cases t with
  | update sheet =>
    cases h
    exact ⟨hasBegun_build _ _, fun hbegun => absurd hbegun (Nat.lt_irrefl 0)⟩
  | drop component => cases h
  | build current queue =>
    cases current with
    | none =>
      cases queue with
      | nil => cases h
      | cons job queue =>
        cases h
        refine ⟨hasBegun_build _ _, fun _ => ?_⟩
        simp only [stepsLeft, queueSteps, Option.map_some, Option.getD_some, Option.map_none,
          Option.getD_none, totalSteps_cons]
        omega
    | some r =>
      cases hstep : Run.step disk idx r with
      | mk idx'' left =>
        simp only [step, hstep, Prod.mk.injEq, Option.some.injEq] at h
        obtain ⟨rfl, rfl⟩ := h
        refine ⟨hasBegun_build _ _, fun _ => ?_⟩
        cases left with
        | none =>
          have hpos := Run.stepsLeft_pos r
          simp only [stepsLeft, Option.map_none, Option.getD_none, Option.map_some,
            Option.getD_some]
          omega
        | some r' =>
          have hless := (Run.step_some hstep).2.2.2
          simp only [stepsLeft, Option.map_some, Option.getD_some]
          omega

theorem toDisk_stepsLeft {n : Nat} {idx idx' : Index} {t t' : Task} (hbegun : t.HasBegun)
    (h : toDisk disk n idx t = (idx', some t')) : t'.HasBegun ∧ t'.stepsLeft ≤ t.stepsLeft := by
  induction n generalizing idx t with
  | zero =>
    cases h
    exact ⟨hbegun, Nat.le_refl _⟩
  | succ n ih =>
    rw [toDisk] at h
    split at h
    · cases h
      exact ⟨hbegun, Nat.le_refl _⟩
    · split at h
      · rename_i idx'' t'' hstep
        obtain ⟨hbegun'', hless⟩ := step_stepsLeft hstep
        obtain ⟨hbegun', hle⟩ := ih hbegun'' h
        exact ⟨hbegun', Nat.le_trans hle (Nat.le_of_lt (hless hbegun))⟩
      · cases h

theorem turn_stepsLeft {idx : Index} {t t' : Task} (h : (t.turn disk idx).2 = some t') :
    t'.HasBegun ∧ (t.HasBegun → t'.stepsLeft < t.stepsLeft) := by
  unfold turn at h
  split at h
  · rename_i idx' t'' hstep
    obtain ⟨hbegun, hless⟩ := step_stepsLeft hstep
    have hleft : toDisk disk t''.stepsLeft idx' t'' =
        ((toDisk disk t''.stepsLeft idx' t'').1, some t') := Prod.ext rfl h
    obtain ⟨hbegun', hle⟩ := toDisk_stepsLeft hbegun hleft
    exact ⟨hbegun', fun ht => Nat.lt_of_le_of_lt hle (hless ht)⟩
  · cases h

theorem turns_begun (disk : Disk) (idx : Index) (tasks : List Task) :
    ∀ t ∈ (turns disk idx tasks).2, t.HasBegun := by
  induction tasks generalizing idx with
  | nil => exact fun t ht => by cases ht
  | cons first rest ih =>
    intro t ht
    rcases List.mem_append.mp ht with ht | ht
    · exact (turn_stepsLeft (Option.mem_toList.mp ht)).1
    · exact ih _ t ht

theorem turns_stepsLeft (disk : Disk) (idx : Index) {tasks : List Task}
    (hbegun : ∀ t ∈ tasks, t.HasBegun) :
    totalSteps stepsLeft (turns disk idx tasks).2 + tasks.length ≤
      totalSteps stepsLeft tasks := by
  induction tasks generalizing idx with
  | nil => exact Nat.le_refl _
  | cons first rest ih =>
    have hrest := ih (first.turn disk idx).1 fun t ht => hbegun t (List.mem_cons_of_mem first ht)
    have hfirst : 0 < first.stepsLeft := hbegun first List.mem_cons_self
    have hleft : totalSteps stepsLeft (first.turn disk idx).2.toList + 1 ≤ first.stepsLeft := by
      cases hturn : (first.turn disk idx).2 with
      | none => simpa using Nat.succ_le_of_lt hfirst
      | some t => simpa using Nat.succ_le_of_lt ((turn_stepsLeft hturn).2 hfirst)
    simp only [turns, totalSteps_append, totalSteps_cons, List.length_cons]
    omega

theorem rounds_done {n : Nat} {idx : Index} {tasks : List Task}
    (hbegun : ∀ t ∈ tasks, t.HasBegun) (hn : totalSteps stepsLeft tasks ≤ n) :
    (rounds disk n idx tasks).2 = [] := by
  have hless := turns_stepsLeft disk idx hbegun
  induction n generalizing idx tasks with
  | zero =>
    refine List.eq_nil_of_length_eq_zero ?_
    show tasks.length = 0
    omega
  | succ n ih =>
    have hbegun' := turns_begun disk idx tasks
    refine ih hbegun' ?_ (turns_stepsLeft disk _ hbegun')
    cases tasks with
    | nil => exact Nat.zero_le _
    | cons first rest =>
      rw [List.length_cons] at hless
      omega

/-- Carrying tasks out goes on until none is left. -/
theorem complete_done (disk : Disk) (idx : Index) (tasks : List Task) :
    (rounds disk (totalSteps stepsLeft (turns disk idx tasks).2) (turns disk idx tasks).1
      (turns disk idx tasks).2).2 = [] :=
  rounds_done (turns_begun disk idx tasks) (Nat.le_refl _)

end Task

end ClassLens
