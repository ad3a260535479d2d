import ClassLens.Engine.Debouncer
/-
  Histories of a debouncer — what a list of operations says

  A history is a list of operations on one debouncer. Each scheduled action
  bears the number of the step that scheduled it, so that two actions are never
  mistaken for each other. Whether an action runs can be read off the list: the
  clock has to be brought to the end of its window before an operation touches
  its path.

  What is proved:
    1. `elapses_snoc`, `runs_snoc` — one more operation brings an action to
       run exactly when it moves the clock to the end of the window with the
       path untouched until then;
    2. `Elapses.le_clock`, `elapses_of_clock` — the same by the times at which
       operations happen;
    3. `runs_map_mute` — operations on one path do not matter to another.
-/

namespace ClassLens

namespace Debouncer

variable {α : Type}

/-- What is asked of a debouncer. -/
inductive Op (α : Type) where
  | schedule (path : Path) (action : α)
  | cancel (path : Path)
  | cancelAll
  | setWindow (ms : Nat)
  /-- Time moves on; moving it by nothing lets run what is due. -/
  | advance (ms : Nat)

/-- A debouncer in use. -/
structure History (α : Type) where
  /-- The number of operations so far. -/
  steps : Nat
  /-- The debouncer; each action bears the number of the step that scheduled it. -/
  state : Debouncer (Nat × α)
  /-- The actions that have run, each with the time it ran at. -/
  ran : List (Nat × (Nat × α))

/-- One more operation, with some aborts that come too late. -/
def History.perform (late : Nat → Bool) (h : History α) : Op α → History α
  | .schedule path action =>
    { h with steps := h.steps + 1, state := h.state.schedule path (h.steps, action) late }
  | .cancel path => { h with steps := h.steps + 1, state := h.state.cancel path late }
  | .cancelAll => { h with steps := h.steps + 1, state := h.state.cancelAll late }
  | .setWindow ms => { h with steps := h.steps + 1, state := h.state.setWindow ms }
  | .advance ms => ⟨h.steps + 1, (h.state.advance ms).1, h.ran ++ (h.state.advance ms).2⟩

/-- A new debouncer after some operations. Its clock has a reach, and the aborts of
some tasks come too late. -/
def run (window reach : Nat) (late : Nat → Bool) (ops : List (Op α)) : History α :=
  ops.foldl (History.perform late) ⟨0, new window reach, []⟩

/-! ## Reading a history -/

/-- By how much an operation moves the clock. -/
def Op.ms : Op α → Nat
  | .advance ms => ms
  | _ => 0

/-- The time after some operations. -/
def clock : List (Op α) → Nat
  | [] => 0
  | op :: ops => op.ms + clock ops

/-- The window in force after an operation. -/
def Op.windowNext (window : Nat) : Op α → Nat
  | .setWindow ms => ms
  | _ => window

/-- The window in force after some operations. -/
def windowAfter (window : Nat) (ops : List (Op α)) : Nat := ops.foldl Op.windowNext window

/-- Whether an operation ends what is pending for a path. -/
def Op.touches (path : Path) : Op α → Bool
  | .schedule q _ => q == path
  | .cancel q => q == path
  | .cancelAll => true
  | .setWindow _ => false
  | .advance _ => false

/-- Operations from time `now` on bring the clock to `time` before one of them touches a path. -/
def Elapses (path : Path) (now time : Nat) (ops : List (Op α)) : Prop :=
  ∃ before ms rest, ops = before ++ .advance ms :: rest ∧
    (∀ op ∈ before, op.touches path = false) ∧ time ≤ now + clock before + ms

/-- An action scheduled for a path behind `before` runs in the course of `after`:
its window is within the reach of the clock, and it passes with the path untouched. -/
def Runs (window reach : Nat) (before : List (Op α)) (path : Path) (after : List (Op α)) : Prop :=
  windowAfter window before ≤ reach ∧
    Elapses path (clock before) (clock before + windowAfter window before) after

/-- When an action scheduled behind `before` is due; `none` means never. -/
def dueAfter (window reach : Nat) (before : List (Op α)) : Option Nat :=
  if windowAfter window before ≤ reach then some (clock before + windowAfter window before)
  else none

theorem clock_cons (op : Op α) (ops : List (Op α)) : clock (op :: ops) = op.ms + clock ops := rfl

theorem clock_append (a b : List (Op α)) : clock (a ++ b) = clock a + clock b := by
  induction a with
  | nil => simp [clock]
  | cons op a ih =>
    rw [List.cons_append, clock_cons, clock_cons, ih]
    omega

theorem clock_split {ops before after : List (Op α)} {p : Path} {action : α}
    (h : ops = before ++ .schedule p action :: after) :
    clock ops = clock before + clock after := by
  rw [h, clock_append, clock_cons]
  simp [Op.ms]

theorem windowAfter_snoc (window : Nat) (ops : List (Op α)) (op : Op α) :
    windowAfter window (ops ++ [op]) = op.windowNext (windowAfter window ops) := by
  simp [windowAfter]

theorem run_snoc (window reach : Nat) (late : Nat → Bool) (ops : List (Op α)) (op : Op α) :
    run window reach late (ops ++ [op]) = (run window reach late ops).perform late op := by
  simp [run]

theorem touches_congr {p q : Path} (h : (p == q) = true) (op : Op α) :
    op.touches p = op.touches q := by
  cases op with
  | schedule r a => exact BEq.congr_right h
  | cancel r => exact BEq.congr_right h
  | cancelAll => rfl
  | setWindow ms => rfl
  | advance ms => rfl

theorem split_snoc {ops before after : List (Op α)} {op x : Op α}
    (h : ops ++ [op] = before ++ x :: after) :
    (∃ rest, after = rest ++ [op] ∧ ops = before ++ x :: rest) ∨
      (after = [] ∧ op = x ∧ before = ops) := by
  rcases List.eq_nil_or_concat after with rfl | ⟨rest, y, rfl⟩
  · obtain ⟨hops, hx⟩ := List.append_inj' h rfl
    simp only [List.cons.injEq, and_true] at hx
    exact .inr ⟨rfl, hx, hops.symm⟩
  · rw [List.concat_eq_append, ← List.cons_append, ← List.append_assoc] at h
    obtain ⟨hops, hy⟩ := List.append_inj' h rfl
    simp only [List.cons.injEq, and_true] at hy
    exact .inl ⟨rest, by rw [List.concat_eq_append, hy], hops⟩

/-- One number stands for one operation of a history. -/
theorem split_unique {ops b₁ b₂ r₁ r₂ : List (Op α)} {x₁ x₂ : Op α} (h₁ : ops = b₁ ++ x₁ :: r₁)
    (h₂ : ops = b₂ ++ x₂ :: r₂) (hlen : b₁.length = b₂.length) : b₁ = b₂ ∧ x₁ = x₂ ∧ r₁ = r₂ := by
  obtain ⟨hb, htails⟩ := List.append_inj (h₁.symm.trans h₂) hlen
  simp only [List.cons.injEq] at htails
  exact ⟨hb, htails.1, htails.2⟩

/-- One more operation brings the clock to a time exactly when it moves it there
with the path untouched so far. -/
theorem elapses_snoc (path : Path) (now time : Nat) (ops : List (Op α)) (op : Op α) :
    Elapses path now time (ops ++ [op]) ↔
      Elapses path now time ops ∨
        ∃ ms, op = .advance ms ∧ (∀ x ∈ ops, x.touches path = false) ∧
          time ≤ now + clock ops + ms := by
  constructor
  · rintro ⟨before, ms, rest, hsplit, hquiet, htime⟩
    rcases split_snoc hsplit with ⟨rest', -, hops⟩ | ⟨-, hop, rfl⟩
    · exact .inl ⟨before, ms, rest', hops, hquiet, htime⟩
    · exact .inr ⟨ms, hop, hquiet, htime⟩
  · rintro (⟨before, ms, rest, rfl, hquiet, htime⟩ | ⟨ms, rfl, hquiet, htime⟩)
    · exact ⟨before, ms, rest ++ [op], by simp, hquiet, htime⟩
    · exact ⟨ops, ms, [], rfl, hquiet, htime⟩

theorem not_elapses_nil (path : Path) (now time : Nat) :
    ¬ Elapses path now time ([] : List (Op α)) := by
  rintro ⟨before, ms, rest, h, -, -⟩
  simp at h

/-- One more operation brings an action to run exactly when it moves the clock
to the deadline with the path untouched so far. -/
theorem runs_snoc (window reach : Nat) (before : List (Op α)) (path : Path)
    (after : List (Op α)) (op : Op α) :
    Runs window reach before path (after ++ [op]) ↔
      Runs window reach before path after ∨
        (windowAfter window before ≤ reach ∧ ∃ ms, op = .advance ms ∧
          (∀ x ∈ after, x.touches path = false) ∧
          clock before + windowAfter window before ≤ clock before + clock after + ms) := by
  unfold Runs
  rw [elapses_snoc]
  grind

/-! ## By the clock -/

theorem elapses_cons (path : Path) (now time : Nat) (op : Op α) (ops : List (Op α)) :
    Elapses path now time (op :: ops) ↔
      (∃ ms, op = .advance ms ∧ time ≤ now + ms) ∨
        (op.touches path = false ∧ Elapses path (now + op.ms) time ops) := by
  constructor
  · rintro ⟨before, ms, rest, hsplit, hquiet, htime⟩
    cases before with
    | nil =>
      obtain ⟨rfl, -⟩ := List.cons.inj hsplit
      exact .inl ⟨ms, rfl, by simpa [clock] using htime⟩
    | cons x before =>
      obtain ⟨rfl, hops⟩ := List.cons.inj hsplit
      rw [clock_cons] at htime
      exact .inr ⟨hquiet op (by simp),
        before, ms, rest, hops, fun y hy => hquiet y (by simp [hy]), by omega⟩
  · rintro (⟨ms, rfl, htime⟩ | ⟨htouch, before, ms, rest, rfl, hquiet, htime⟩)
    · exact ⟨[], ms, ops, rfl, by simp, by simpa [clock] using htime⟩
    · refine ⟨op :: before, ms, rest, rfl, ?_, ?_⟩
      · intro x hx
        rcases List.mem_cons.mp hx with rfl | hx
        · exact htouch
        · exact hquiet x hx
      · rw [clock_cons]
        omega

/-- Once a time is reached untouched, the clock shows no less at every operation
that touches the path. -/
theorem Elapses.le_clock {path : Path} {now time : Nat} {ops before rest : List (Op α)}
    {op : Op α} (h : Elapses path now time ops) (hsplit : ops = before ++ op :: rest)
    (htouch : op.touches path = true) : time ≤ now + clock before := by
  obtain ⟨quiet, ms, after, hops, hquiet, htime⟩ := h
  rcases List.append_eq_append_iff.mp (hops.symm.trans hsplit) with ⟨c, rfl, hc⟩ | ⟨c, rfl, hc⟩
  · cases c with
    | nil =>
      obtain ⟨rfl, -⟩ := List.cons.inj hc
      cases htouch
    | cons x c =>
      obtain ⟨rfl, -⟩ := List.cons.inj hc
      rw [clock_append, clock_cons]
      simp only [Op.ms]
      omega
  · cases c with
    | nil =>
      obtain ⟨rfl, -⟩ := List.cons.inj hc
      cases htouch
    | cons x c =>
      obtain ⟨rfl, -⟩ := List.cons.inj hc
      rw [hquiet op (by simp)] at htouch
      cases htouch

/-- A time that lies ahead is reached untouched when the clock comes to it and
shows no less at every operation that touches the path. -/
theorem elapses_of_clock {path : Path} {now time : Nat} {ops : List (Op α)} (hahead : now < time)
    (htime : time ≤ now + clock ops)
    (hall : ∀ before op rest, ops = before ++ op :: rest → op.touches path = true →
      time ≤ now + clock before) : Elapses path now time ops := by
  induction ops generalizing now with
  | nil =>
    simp only [clock] at htime
    omega
  | cons x rest ih =>
    rw [elapses_cons]
    rw [clock_cons] at htime
    have hquiet : x.touches path = false := by
      cases htouch : x.touches path with
      | false => rfl
      | true =>
        have := hall [] x rest rfl htouch
        simp only [clock] at this
        omega
    by_cases hnow : now + x.ms < time
    · refine .inr ⟨hquiet, ih hnow (by omega) fun before op after hsplit hop => ?_⟩
      have := hall (x :: before) op after (by rw [hsplit, List.cons_append]) hop
      rw [clock_cons] at this
      omega
    · -- only an operation that moves the clock can have brought it there
      cases x with
      | advance ms => exact .inl ⟨ms, rfl, by simp only [Op.ms] at hnow; omega⟩
      | _ => exact absurd hahead (by simpa [Op.ms] using hnow)

theorem Elapses.mono {path : Path} {now time later : Nat} {ops : List (Op α)}
    (h : Elapses path now later ops) (hle : time ≤ later) : Elapses path now time ops := by
  obtain ⟨before, ms, rest, hops, hquiet, htime⟩ := h
  exact ⟨before, ms, rest, hops, hquiet, Nat.le_trans hle htime⟩

theorem Elapses.le_clock_end {path : Path} {now time : Nat} {ops : List (Op α)}
    (h : Elapses path now time ops) : time ≤ now + clock ops := by
  obtain ⟨before, ms, rest, rfl, -, htime⟩ := h
  rw [clock_append, clock_cons]
  simp only [Op.ms]
  omega

/-! ## Operations on one path and the others -/

/-- Leaves nothing of an operation on a path but a cancellation there. -/
def mute (path : Path) : Op α → Op α
  | .schedule q action => if q == path then .cancel path else .schedule q action
  | .cancel q => if q == path then .cancel path else .cancel q
  | op => op

theorem ms_mute (path : Path) (op : Op α) : (mute path op).ms = op.ms := by
  cases op <;> simp only [mute] <;> (try split) <;> rfl

theorem windowNext_mute (path : Path) (window : Nat) (op : Op α) :
    (mute path op).windowNext window = op.windowNext window := by
  cases op <;> simp only [mute] <;> (try split) <;> rfl

theorem clock_map_mute (path : Path) (ops : List (Op α)) :
    clock (ops.map (mute path)) = clock ops := by
  induction ops with
  | nil => rfl
  | cons op ops ih => rw [List.map_cons, clock_cons, clock_cons, ms_mute, ih]

theorem windowAfter_map_mute (path : Path) (window : Nat) (ops : List (Op α)) :
    windowAfter window (ops.map (mute path)) = windowAfter window ops := by
  unfold windowAfter
  rw [List.foldl_map]
  simp only [windowNext_mute]

theorem touches_mute (path q : Path) (op : Op α) : (mute path op).touches q = op.touches q := by
  have hcancel : ∀ r : Path, (r == path) = true → (path == q) = (r == q) := by
    intro r hr
    exact (BEq.congr_left hr).symm
  cases op with
  | schedule r action =>
    simp only [mute]
    split
    · rename_i hr
      exact hcancel r hr
    · rfl
  | cancel r =>
    simp only [mute]
    split
    · rename_i hr
      exact hcancel r hr
    · rfl
  | cancelAll => rfl
  | setWindow ms => rfl
  | advance ms => rfl

theorem mute_eq_schedule {path p : Path} {op : Op α} {action : α} :
    mute path op = .schedule p action ↔ op = .schedule p action ∧ ¬ (p == path) = true := by
  cases op with
  | schedule r a =>
    simp only [mute]
    split
    · rename_i hr
      constructor
      · intro h
        cases h
      · rintro ⟨h, hne⟩
        cases h
        exact absurd hr hne
    · rename_i hr
      constructor
      · intro h
        cases h
        exact ⟨rfl, hr⟩
      · exact fun h => h.1
  | cancel r =>
    simp only [mute]
    split <;> simp
  | _ => simp [mute]

theorem mute_eq_advance {path : Path} {op : Op α} {ms : Nat} :
    mute path op = .advance ms ↔ op = .advance ms := by
  cases op with
  | schedule r a => simp only [mute]; split <;> simp
  | cancel r => simp only [mute]; split <;> simp
  | _ => simp [mute]

theorem runs_map_mute (path q : Path) (window reach : Nat) (before after : List (Op α)) :
    Runs window reach (before.map (mute path)) q (after.map (mute path)) ↔
      Runs window reach before q after := by
  unfold Runs
  rw [clock_map_mute, windowAfter_map_mute]
  refine and_congr_right fun _ => ?_
  generalize clock before + windowAfter window before = time
  generalize clock before = now
  induction after generalizing now with
  | nil => exact Iff.rfl
  | cons x rest ih =>
    simp only [List.map_cons, elapses_cons, mute_eq_advance, touches_mute, ms_mute, ih]

end Debouncer

end ClassLens
