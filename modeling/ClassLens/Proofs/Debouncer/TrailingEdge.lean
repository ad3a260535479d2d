import ClassLens.Proofs.Debouncer.Generations
import ClassLens.Proofs.Debouncer.History
/-
  The trailing edge — what a debouncer runs, and what it holds

  The tasks in charge of a debouncer and the record of what it ran are both what
  its history says: each action that still waits has its task, and the record
  holds each action whose window has passed, once and with the end of the window
  as its time. Nothing of this depends on which aborts come too late.

  What is proved:
    1. `Tracked.schedule`, `Tracked.cancel`, `Tracked.cancelAll`,
       `Tracked.setWindow`, `Tracked.advance` — tasks and record keep in step
       with the history, operation by operation, and so `tracked_run`;
    2. `tidy_run` — no task is left over where no abort comes too late;
    3. `runs_exactly_at_deadline` — the whole law for every history.
-/

namespace ClassLens

namespace Debouncer

variable {α : Type}

/-- What is pending for a path: when it is due, and the action. -/
structure Timer (α : Type) where
  deadline : Option Nat
  action : α

/-- What a task is to do. -/
def timerOf (s : Sleeper α) : Timer α := ⟨s.deadline, s.action⟩

/-- The deadline of a timer that is due at a time. -/
def due? (time : Nat) (t : Timer α) : Option Nat :=
  t.deadline.bind fun deadline => if deadline ≤ time then some deadline else none

/-- The task in charge of a path is to do what the timer says. -/
def Holds (d : Debouncer α) (path : Path) (t : Timer α) : Prop :=
  ∃ s ∈ d.live, (s.path == path) = true ∧ timerOf s = t

theorem due?_timerOf (time : Nat) (s : Sleeper α) : due? time (timerOf s) = s.due? time := rfl

/-- A timer set behind `before` is due exactly when its window is within reach and has passed. -/
theorem due?_dueAfter (window reach time : Nat) (before : List (Op α)) (x : Nat × α) :
    due? time (⟨dueAfter window reach before, x⟩ : Timer (Nat × α)) =
      if windowAfter window before ≤ reach ∧ clock before + windowAfter window before ≤ time then
        some (clock before + windowAfter window before)
      else none := by
  unfold due? dueAfter
  by_cases hw : windowAfter window before ≤ reach <;> simp [hw]

/-! ## The history behind the table and behind what ran -/

/-- The action under a timer was the last one scheduled for a path, nothing has
touched the path since, and it has not run. -/
def Pends (window reach : Nat) (ops : List (Op α)) (path : Path) (t : Timer (Nat × α)) : Prop :=
  ∃ before p action after, ops = before ++ .schedule p action :: after ∧ (p == path) = true ∧
    (∀ op ∈ after, op.touches p = false) ∧ ¬ Runs window reach before p after ∧
    t = ⟨dueAfter window reach before, (before.length, action)⟩

/-- A timer that an operation leaves alone: it does not touch the path, and it
does not move the clock to the deadline. -/
def Spares (ops : List (Op α)) (op : Op α) (path : Path) (t : Timer (Nat × α)) : Prop :=
  op.touches path = false ∧ ∀ ms, op = .advance ms → due? (clock ops + ms) t = none

/-- What pends after one more operation: what the operation spares, and what it schedules. -/
theorem pends_snoc (window reach : Nat) (ops : List (Op α)) (op : Op α) (path : Path)
    (t : Timer (Nat × α)) :
    Pends window reach (ops ++ [op]) path t ↔
      (Pends window reach ops path t ∧ Spares ops op path t) ∨
        ∃ p action, op = .schedule p action ∧ (p == path) = true ∧
          t = ⟨dueAfter window reach ops, (ops.length, action)⟩ := by
  constructor
  · rintro ⟨before, p, action, after, hsplit, hp, hquiet, hruns, ht⟩
    rcases split_snoc hsplit with ⟨rest, rfl, hops⟩ | ⟨rfl, rfl, rfl⟩
    · have hrest : ∀ x ∈ rest, x.touches p = false := fun x hx => hquiet x (by simp [hx])
      rw [runs_snoc] at hruns
      refine .inl ⟨⟨before, p, action, rest, hops, hp, hrest, fun h => hruns (.inl h), ht⟩, ?_, ?_⟩
      · rw [← touches_congr hp]
        exact hquiet op (by simp)
      · intro ms hop
        have hclock : clock ops = clock before + clock rest := clock_split hops
        rw [ht, due?_dueAfter, hclock, if_neg]
        intro hdue
        exact hruns (.inr ⟨hdue.1, ms, hop, hrest, hdue.2⟩)
    · exact .inr ⟨p, action, rfl, hp, ht⟩
  · rintro (⟨⟨before, p, action, after, hops, hp, hquiet, hruns, ht⟩, htouch, hdue⟩ |
      ⟨p, action, rfl, hp, ht⟩)
    · refine ⟨before, p, action, after ++ [op], by simp [hops], hp, ?_, ?_, ht⟩
      · intro x hx
        rcases List.mem_append.mp hx with hx | hx
        · exact hquiet x hx
        · rw [List.mem_singleton.mp hx, touches_congr hp]
          exact htouch
      · rw [runs_snoc]
        rintro (h | ⟨hw, ms, hop, -, htime⟩)
        · exact hruns h
        · have hclock : clock ops = clock before + clock after := clock_split hops
          have hnone := hdue ms hop
          rw [ht, due?_dueAfter, hclock, if_pos ⟨hw, htime⟩] at hnone
          cases hnone
    · exact ⟨ops, p, action, [], rfl, hp, by simp, fun h => not_elapses_nil _ _ _ h.2, ht⟩

/-- The entries of what ran that come from one step. -/
def ranFrom (h : History α) (step : Nat) : List (Nat × (Nat × α)) :=
  h.ran.filter fun e => e.2.1 == step

/-- A debouncer in use is what its history says. -/
structure Tracked (window reach : Nat) (ops : List (Op α)) (h : History α) : Prop where
  steps_eq : h.steps = ops.length
  now_eq : h.state.now = clock ops
  window_eq : h.state.window = windowAfter window ops
  reach_eq : h.state.reach = reach
  sound : Sound h.state
  pending : ∀ path t, Holds h.state path t ↔ Pends window reach ops path t
  ran : ∀ before p action after, ops = before ++ .schedule p action :: after →
    (Runs window reach before p after → ranFrom h before.length =
      [(clock before + windowAfter window before, (before.length, action))]) ∧
    (¬ Runs window reach before p after → ranFrom h before.length = [])
  known : ∀ e ∈ h.ran, ∃ before p after,
    ops = before ++ .schedule p e.2.2 :: after ∧ before.length = e.2.1

theorem tracked_new (window reach : Nat) :
    Tracked window reach ([] : List (Op α)) ⟨0, new window reach, []⟩ where
  steps_eq := rfl
  now_eq := rfl
  window_eq := rfl
  reach_eq := rfl
  sound := sound_new window reach
  pending := by
    intro path t
    constructor
    · rintro ⟨s, hs, -⟩
      cases hs
    · rintro ⟨before, p, action, after, h, -⟩
      simp at h
  ran := by
    intro before p action after h
    simp at h
  known := by simp

section Tracked

variable {window reach : Nat} {late : Nat → Bool} {ops : List (Op α)} {h : History α}

/-- No action has run that a later step will schedule. -/
theorem Tracked.ranFrom_length (ht : Tracked window reach ops h) : ranFrom h ops.length = [] := by
  unfold ranFrom
  rw [List.filter_eq_nil_iff]
  intro e he
  obtain ⟨before, p, after, hops, hlen⟩ := ht.known e he
  have hlt : before.length < ops.length := by rw [hops]; simp
  simp only [beq_iff_eq]
  omega

/-! ## Operations that leave the clock alone -/

/-- An operation that leaves the clock alone keeps the history in step, if it ends
the tasks that it touches, begins those that the history says, and lets nothing run. -/
theorem Tracked.still {op : Op α} {state : Debouncer (Nat × α)}
    (started : List (Sleeper (Nat × α))) (ht : Tracked window reach ops h)
    (hop : ∀ ms, op ≠ .advance ms) (hnow : state.now = h.state.now)
    (hwindow : state.window = op.windowNext h.state.window)
    (hreach : state.reach = h.state.reach) (hsound : Sound state)
    (hlive : state.live = h.state.live.filter (fun s => !op.touches s.path) ++ started)
    (hstarted : ∀ path t, (∃ s ∈ started, (s.path == path) = true ∧ timerOf s = t) ↔
      ∃ p action, op = .schedule p action ∧ (p == path) = true ∧
        t = ⟨dueAfter window reach ops, (ops.length, action)⟩) :
    Tracked window reach (ops ++ [op]) ⟨h.steps + 1, state, h.ran⟩ where
  steps_eq := by simp [ht.steps_eq]
  now_eq := by
    have hms : op.ms = 0 := by
      cases op with
      | advance ms => exact absurd rfl (hop ms)
      | _ => rfl
    show state.now = _
    rw [hnow, ht.now_eq, clock_append, clock_cons, hms]
    simp [clock]
  window_eq := by
    show state.window = _
    rw [hwindow, ht.window_eq, windowAfter_snoc]
  reach_eq := hreach.trans ht.reach_eq
  sound := hsound
  pending := by
    intro path t
    have hspares : Spares ops op path t ↔ op.touches path = false :=
      ⟨fun h => h.1, fun h => ⟨h, fun ms e => absurd e (hop ms)⟩⟩
    rw [pends_snoc, hspares, ← ht.pending, ← hstarted]
    show Holds state path t ↔ _
    unfold Holds
    rw [hlive]
    constructor
    · rintro ⟨s, hs, hpath, hs'⟩
      rcases List.mem_append.mp hs with hs | hs
      · obtain ⟨hs, htouch⟩ := List.mem_filter.mp hs
        rw [touches_congr hpath] at htouch
        exact .inl ⟨⟨s, hs, hpath, hs'⟩, by simpa using htouch⟩
      · exact .inr ⟨s, hs, hpath, hs'⟩
    · rintro (⟨⟨s, hs, hpath, hs'⟩, htouch⟩ | ⟨s, hs, hpath, hs'⟩)
      · rw [← touches_congr hpath] at htouch
        exact ⟨s, List.mem_append_left _ (List.mem_filter.mpr ⟨hs, by simpa using htouch⟩),
          hpath, hs'⟩
      · exact ⟨s, List.mem_append_right _ hs, hpath, hs'⟩
  ran := by
    intro before p action after hsplit
    rcases split_snoc hsplit with ⟨rest, rfl, hops⟩ | ⟨rfl, -, rfl⟩
    · have hruns : Runs window reach before p (rest ++ [op]) ↔ Runs window reach before p rest := by
        rw [runs_snoc]
        refine ⟨fun h => h.resolve_right ?_, .inl⟩
        rintro ⟨-, ms, e, -⟩
        exact hop ms e
      rw [hruns]
      exact ht.ran before p action rest hops
    · exact ⟨fun h => absurd h.2 (not_elapses_nil _ _ _), fun _ => ht.ranFrom_length⟩
  known := by
    intro e he
    obtain ⟨before, p, after, hops, hlen⟩ := ht.known e he
    exact ⟨before, p, after ++ [op], by simp [hops], hlen⟩

theorem Tracked.schedule (ht : Tracked window reach ops h) (path : Path) (action : α) :
    Tracked window reach (ops ++ [.schedule path action])
      (h.perform late (.schedule path action)) := by
  have hdeadline : h.state.deadline = dueAfter window reach ops := by
    unfold deadline dueAfter
    rw [ht.now_eq, ht.window_eq, ht.reach_eq]
  have hrest := schedule_rest h.state path (h.steps, action) late
  refine ht.still _ (by simp) (congrArg now hrest :) (congrArg Debouncer.window hrest :)
    (congrArg Debouncer.reach hrest :) (ht.sound.schedule _ _ _)
    (ht.sound.live_schedule path (h.steps, action) late) fun q t => ?_
  simp only [List.mem_singleton, exists_eq_left]
  show (path == q) = true ∧ ⟨h.state.deadline, (h.steps, action)⟩ = t ↔ _
  rw [hdeadline, ht.steps_eq]
  constructor
  · rintro ⟨hq, rfl⟩
    exact ⟨path, action, rfl, hq, rfl⟩
  · rintro ⟨p, a, hop, hq, rfl⟩
    cases hop
    exact ⟨hq, rfl⟩

theorem Tracked.cancel (ht : Tracked window reach ops h) (path : Path) :
    Tracked window reach (ops ++ [.cancel path]) (h.perform late (.cancel path)) := by
  have hrest := withdraw_rest h.state path late
  refine ht.still [] (by simp) (congrArg now hrest :) (congrArg Debouncer.window hrest :)
    (congrArg Debouncer.reach hrest :) (ht.sound.withdraw path late) ?_ (by simp)
  rw [List.append_nil]
  exact ht.sound.live_withdraw path late

theorem Tracked.cancelAll (ht : Tracked window reach ops h) :
    Tracked window reach (ops ++ [.cancelAll]) (h.perform late .cancelAll) := by
  have hrest := cancelAll_rest h.state late
  refine ht.still [] (by simp) (congrArg now hrest :) (congrArg Debouncer.window hrest :)
    (congrArg Debouncer.reach hrest :) (ht.sound.cancelAll late) ?_ (by simp)
  rw [live_cancelAll]
  simp [Op.touches]

theorem Tracked.setWindow (ht : Tracked window reach ops h) (ms : Nat) :
    Tracked window reach (ops ++ [.setWindow ms]) (h.perform late (.setWindow ms)) := by
  refine ht.still [] (by simp) (rfl : (h.state.setWindow ms).now = _) rfl rfl
    (ht.sound.setWindow ms) ?_ (by simp)
  rw [live_setWindow]
  simp [Op.touches]

/-! ## Moving the clock -/

theorem filter_eq_singleton {β : Type} {f : β → Nat} {l : List β} {x : β}
    (hl : l.Pairwise fun a b => f a ≠ f b) (hx : x ∈ l) : l.filter (f · == f x) = [x] := by
  induction l with
  | nil => cases hx
  | cons y rest ih =>
    obtain ⟨hhead, htail⟩ := List.pairwise_cons.mp hl
    rcases List.mem_cons.mp hx with rfl | hmem
    · have hnone : rest.filter (f · == f x) = [] := by
        rw [List.filter_eq_nil_iff]
        intro z hz
        simpa using (hhead z hz).symm
      simp [hnone]
    · have hne : (f y == f x) = false := by simpa using hhead x hmem
      simp only [List.filter_cons, hne, Bool.false_eq_true, if_false]
      exact ih htail hmem

theorem Tracked.pends_of_live (ht : Tracked window reach ops h) {s : Sleeper (Nat × α)}
    (hs : s ∈ h.state.live) : Pends window reach ops s.path (timerOf s) :=
  (ht.pending s.path (timerOf s)).mp ⟨s, hs, BEq.rfl, rfl⟩

theorem Tracked.steps_distinct (ht : Tracked window reach ops h) :
    h.state.live.Pairwise fun a b => a.action.1 ≠ b.action.1 := by
  refine (ht.sound.numbered.filter _).imp_of_mem fun {s t} hs ht' hlt hsame => ?_
  obtain ⟨b₁, p₁, a₁, r₁, hops₁, hp₁, -, -, hs₁⟩ := ht.pends_of_live hs
  obtain ⟨b₂, p₂, a₂, r₂, hops₂, hp₂, -, -, hs₂⟩ := ht.pends_of_live ht'
  -- one number stands for one operation of the history, and so for one path
  have hlen : b₁.length = b₂.length :=
    (congrArg (·.action.1) hs₁).symm.trans (hsame.trans (congrArg (·.action.1) hs₂))
  obtain ⟨-, hop, -⟩ := split_unique hops₁ hops₂ hlen
  obtain ⟨rfl, -⟩ := Op.schedule.inj hop
  have heq := ht.sound.eq_of_path hs ht' (BEq.trans (BEq.symm hp₁) hp₂)
  rw [heq] at hlt
  exact Nat.lt_irrefl _ hlt

theorem filter_filterMap_dueOf (time step : Nat) (tasks : List (Sleeper (Nat × α))) :
    (tasks.filterMap (dueOf time)).filter (fun e => e.2.1 == step) =
      (tasks.filter fun s => s.action.1 == step).filterMap (dueOf time) := by
  induction tasks with
  | nil => rfl
  | cons s rest ih =>
    cases hdue : s.due? time with
    | none =>
      have hnone : dueOf time s = none := by simp [dueOf, hdue]
      rw [List.filterMap_cons_none hnone, ih, List.filter_cons]
      split
      · rw [List.filterMap_cons_none hnone]
      · rfl
    | some deadline =>
      have hsome : dueOf time s = some (deadline, s.action) := by simp [dueOf, hdue]
      rw [List.filterMap_cons_some hsome, List.filter_cons, List.filter_cons, ih]
      split
      · rw [List.filterMap_cons_some hsome]
      · rfl

/-- The actions of one step among those that run: the one of its task, if it has one
and that is due. -/
theorem Tracked.filter_advance (ht : Tracked window reach ops h) (ms step : Nat) :
    List.Perm ((h.state.advance ms).2.filter fun e => e.2.1 == step)
      ((h.state.live.filter fun s => s.action.1 == step).filterMap (dueOf (clock ops + ms))) := by
  rw [← filter_filterMap_dueOf, ← ht.now_eq]
  exact (ht.sound.advance_ran ms).1.filter _

theorem Tracked.filter_advance_of_pends (ht : Tracked window reach ops h) {path : Path}
    {t : Timer (Nat × α)} {ms deadline : Nat} (hp : Pends window reach ops path t)
    (hdue : due? (clock ops + ms) t = some deadline) :
    (h.state.advance ms).2.filter (fun e => e.2.1 == t.action.1) = [(deadline, t.action)] := by
  obtain ⟨s, hs, -, rfl⟩ := (ht.pending path t).mpr hp
  have hperm := ht.filter_advance ms s.action.1
  rw [filter_eq_singleton (f := fun s => s.action.1) ht.steps_distinct hs] at hperm
  have hsome : dueOf (clock ops + ms) s = some (deadline, s.action) := by
    rw [due?_timerOf] at hdue
    simp [dueOf, hdue]
  rw [List.filterMap_cons_some hsome] at hperm
  exact List.perm_singleton.mp hperm

theorem Tracked.filter_advance_eq_nil (ht : Tracked window reach ops h) {ms step : Nat}
    (hnone : ∀ path t, Pends window reach ops path t → t.action.1 = step →
      due? (clock ops + ms) t = none) :
    (h.state.advance ms).2.filter (fun e => e.2.1 == step) = [] := by
  have hperm := ht.filter_advance ms step
  have hempty : (h.state.live.filter fun s => s.action.1 == step).filterMap
      (dueOf (clock ops + ms)) = [] := by
    rw [List.filterMap_eq_nil_iff]
    intro s hmem
    obtain ⟨hs, hstep⟩ := List.mem_filter.mp hmem
    have hdue := hnone s.path _ (ht.pends_of_live hs) (beq_iff_eq.mp hstep)
    rw [due?_timerOf] at hdue
    simp [dueOf, hdue]
  rw [hempty] at hperm
  exact List.perm_nil.mp hperm

theorem Tracked.exists_of_mem_advance (ht : Tracked window reach ops h) {ms : Nat}
    {e : Nat × (Nat × α)} (he : e ∈ (h.state.advance ms).2) :
    ∃ path t, Pends window reach ops path t ∧ e.2 = t.action ∧ t.deadline = some e.1 := by
  obtain ⟨s, hs, hdue⟩ := List.mem_filterMap.mp ((ht.sound.advance_ran ms).1.mem_iff.mp he)
  obtain ⟨deadline, hdeadline, rfl⟩ := Option.map_eq_some_iff.mp hdue
  refine ⟨s.path, timerOf s, ht.pends_of_live hs, rfl, ?_⟩
  obtain ⟨d, hd, hd'⟩ := Option.bind_eq_some_iff.mp hdeadline
  split at hd'
  · rw [← Option.some.inj hd']
    exact hd
  · cases hd'

theorem Tracked.ranFrom_advance (ht : Tracked window reach ops h) (ms : Nat)
    {before after : List (Op α)} {p : Path} {action : α}
    (hops : ops = before ++ .schedule p action :: after) :
    (Runs window reach before p (after ++ [.advance ms]) →
      ranFrom (h.perform late (.advance ms)) before.length =
        [(clock before + windowAfter window before, (before.length, action))]) ∧
    (¬ Runs window reach before p (after ++ [.advance ms]) →
      ranFrom (h.perform late (.advance ms)) before.length = []) := by
  have hclock : clock ops = clock before + clock after := clock_split hops
  have hparts : ranFrom (h.perform late (.advance ms)) before.length =
      ranFrom h before.length ++
        (h.state.advance ms).2.filter fun e => e.2.1 == before.length := List.filter_append ..
  -- a timer of this step is the one its operation set
  have htimer : ∀ path t, Pends window reach ops path t → t.action.1 = before.length →
      (∀ x ∈ after, x.touches p = false) ∧ ¬ Runs window reach before p after ∧
        t = ⟨dueAfter window reach before, (before.length, action)⟩ := by
    rintro path t ⟨b, q, a, r, hops', -, hquiet, hruns, rfl⟩ hlen
    obtain ⟨rfl, hop, rfl⟩ := split_unique hops' hops hlen
    cases hop
    exact ⟨hquiet, hruns, rfl⟩
  obtain ⟨hran, hnot⟩ := ht.ran before p action after hops
  rw [hparts, runs_snoc]
  by_cases hruns : Runs window reach before p after
  · -- it ran before, and its timer is gone
    have hnil : (h.state.advance ms).2.filter (fun e => e.2.1 == before.length) = [] :=
      ht.filter_advance_eq_nil fun path t hp hlen => absurd hruns (htimer path t hp hlen).2.1
    rw [hran hruns, hnil]
    exact ⟨fun _ => rfl, fun h => absurd (.inl hruns) h⟩
  · rw [hnot hruns, List.nil_append]
    constructor
    · -- it runs now: its timer is still there, and due
      rintro (h | ⟨hw, ms', hop, hquiet, htime⟩)
      · exact absurd h hruns
      · cases hop
        have hpends : Pends window reach ops p
            ⟨dueAfter window reach before, (before.length, action)⟩ :=
          ⟨before, p, action, after, hops, BEq.rfl, hquiet, hruns, rfl⟩
        refine ht.filter_advance_of_pends hpends ?_
        rw [due?_dueAfter, hclock, if_pos ⟨hw, htime⟩]
    · intro hstill
      refine ht.filter_advance_eq_nil fun path t hp hlen => ?_
      obtain ⟨hquiet, -, rfl⟩ := htimer path t hp hlen
      rw [due?_dueAfter, hclock, if_neg]
      rintro ⟨hw, htime⟩
      exact hstill (.inr ⟨hw, ms, rfl, hquiet, htime⟩)

theorem Tracked.advance (ht : Tracked window reach ops h) (ms : Nat) :
    Tracked window reach (ops ++ [.advance ms]) (h.perform late (.advance ms)) where
  steps_eq := by
    show h.steps + 1 = _
    simp [ht.steps_eq]
  now_eq := by
    show (h.state.advance ms).1.now = _
    rw [advance_rest, clock_append, clock_cons]
    simp [ht.now_eq, Op.ms, clock]
  window_eq := by
    show (h.state.advance ms).1.window = _
    rw [advance_rest, windowAfter_snoc]
    exact ht.window_eq
  reach_eq := by
    show (h.state.advance ms).1.reach = _
    rw [advance_rest]
    exact ht.reach_eq
  sound := ht.sound.advance ms
  pending := by
    intro path t
    rw [pends_snoc, ← ht.pending]
    show Holds (h.state.advance ms).1 path t ↔ _
    unfold Holds
    rw [ht.sound.live_advance, ht.now_eq]
    constructor
    · rintro ⟨s, hs, hpath, rfl⟩
      obtain ⟨hs, hdue⟩ := List.mem_filter.mp hs
      refine .inl ⟨⟨s, hs, hpath, rfl⟩, rfl, fun ms' hop => ?_⟩
      cases hop
      exact Option.isNone_iff_eq_none.mp hdue
    · rintro (⟨⟨s, hs, hpath, rfl⟩, -, hdue⟩ | ⟨p, action, hop, -⟩)
      · have hnone := Option.isNone_iff_eq_none.mpr (hdue ms rfl)
        exact ⟨s, List.mem_filter.mpr ⟨hs, hnone⟩, hpath, rfl⟩
      · cases hop
  ran := by
    intro before p action after hsplit
    rcases split_snoc hsplit with ⟨rest, rfl, hops⟩ | ⟨-, hop, -⟩
    · exact ht.ranFrom_advance ms hops
    · cases hop
  known := by
    intro e he
    have hsplit : ∃ before p after,
        ops = before ++ .schedule p e.2.2 :: after ∧ before.length = e.2.1 := by
      rcases List.mem_append.mp he with he | he
      · exact ht.known e he
      · obtain ⟨path, t, hp, haction, -⟩ := ht.exists_of_mem_advance he
        obtain ⟨before, p, action, after, hops, -, -, -, rfl⟩ := hp
        rw [haction]
        exact ⟨before, p, after, hops, rfl⟩
    obtain ⟨before, p, after, hops, hlen⟩ := hsplit
    exact ⟨before, p, after ++ [.advance ms], by simp [hops], hlen⟩

end Tracked

theorem eq_snoc_of_length_eq_succ {ops : List (Op α)} {n : Nat} (h : ops.length = n + 1) :
    ∃ rest op, ops = rest ++ [op] := by
  rcases List.eq_nil_or_concat ops with rfl | ⟨rest, op, rfl⟩
  · simp at h
  · exact ⟨rest, op, List.concat_eq_append ..⟩

theorem tracked_run (window reach : Nat) (late : Nat → Bool) (ops : List (Op α)) :
    Tracked window reach ops (run window reach late ops) := by
  induction hlen : ops.length generalizing ops with
  | zero =>
    rw [List.eq_nil_of_length_eq_zero hlen]
    exact tracked_new window reach
  | succ n ih =>
    obtain ⟨rest, op, rfl⟩ := eq_snoc_of_length_eq_succ hlen
    have ht := ih rest (by simpa using hlen)
    rw [run_snoc]
    cases op with
    | schedule path action => exact ht.schedule path action
    | cancel path => exact ht.cancel path
    | cancelAll => exact ht.cancelAll
    | setWindow ms => exact ht.setWindow ms
    | advance ms => exact ht.advance ms

theorem pends_map_mute {path q : Path} (hne : ¬ (q == path) = true) (window reach : Nat)
    (ops : List (Op α)) (t : Timer (Nat × α)) :
    Pends window reach (ops.map (mute path)) q t ↔ Pends window reach ops q t := by
  constructor
  · rintro ⟨before, p, action, after, hsplit, hp, hquiet, hruns, rfl⟩
    obtain ⟨before, tail, rfl, rfl, htail⟩ := List.map_eq_append_iff.mp hsplit
    obtain ⟨x, after, rfl, hx, rfl⟩ := List.map_eq_cons_iff.mp htail
    obtain ⟨rfl, -⟩ := mute_eq_schedule.mp hx
    rw [runs_map_mute] at hruns
    refine ⟨before, p, action, after, rfl, hp, ?_, hruns, ?_⟩
    · intro op hop
      rw [← touches_mute path]
      exact hquiet _ (List.mem_map_of_mem hop)
    · unfold dueAfter
      rw [clock_map_mute, windowAfter_map_mute, List.length_map]
  · rintro ⟨before, p, action, after, rfl, hp, hquiet, hruns, rfl⟩
    have hpath : ¬ (p == path) = true := fun h => hne (BEq.trans (BEq.symm hp) h)
    refine ⟨before.map (mute path), p, action, after.map (mute path), ?_, hp, ?_, ?_, ?_⟩
    · rw [List.map_append, List.map_cons, mute_eq_schedule.mpr ⟨rfl, hpath⟩]
    · simpa only [List.forall_mem_map, touches_mute] using hquiet
    · rw [runs_map_mute]
      exact hruns
    · unfold dueAfter
      rw [clock_map_mute, windowAfter_map_mute, List.length_map]

/-! ## The law of a debouncer -/

/-- The action that a step scheduled for a path waits: nothing has touched the
path since, and it has not run. -/
def Waits (ops : List (Op α)) (h : History α) (step : Nat) (path : Path) : Prop :=
  ∃ before action after, ops = before ++ .schedule path action :: after ∧ before.length = step ∧
    (∀ op ∈ after, op.touches path = false) ∧ ranFrom h step = []

section Tracked

variable {window reach : Nat} {late : Nat → Bool} {ops : List (Op α)} {h : History α}

theorem Tracked.ranFrom_eq_nil_iff (ht : Tracked window reach ops h) {before after : List (Op α)}
    {p : Path} {action : α}
    (hops : ops = before ++ .schedule p action :: after) :
    ranFrom h before.length = [] ↔ ¬ Runs window reach before p after := by
  obtain ⟨hran, hnot⟩ := ht.ran before p action after hops
  refine ⟨fun hnil hruns => ?_, hnot⟩
  rw [hran hruns] at hnil
  cases hnil

/-- What waits is what has a timer. -/
theorem Tracked.exists_pends_iff (ht : Tracked window reach ops h) (path : Path) (step : Nat) :
    (∃ t, Pends window reach ops path t ∧ t.action.1 = step) ↔
      ∃ q, (q == path) = true ∧ Waits ops h step q := by
  constructor
  · rintro ⟨t, ⟨before, p, action, after, hops, hp, hquiet, hruns, rfl⟩, hstep⟩
    subst hstep
    exact ⟨p, hp, before, action, after, hops, rfl, hquiet, (ht.ranFrom_eq_nil_iff hops).mpr hruns⟩
  · rintro ⟨q, hq, before, action, after, hops, rfl, hquiet, hnil⟩
    exact ⟨_, ⟨before, q, action, after, hops, hq, hquiet, (ht.ranFrom_eq_nil_iff hops).mp hnil,
      rfl⟩, rfl⟩

theorem Tracked.isPending_iff (ht : Tracked window reach ops h) (path : Path) :
    h.state.isPending path = true ↔ ∃ t, Pends window reach ops path t := by
  simp only [ht.sound.isPending_iff, ← ht.pending, Holds]
  constructor
  · rintro ⟨s, hs, hpath⟩
    exact ⟨timerOf s, s, hs, hpath, rfl⟩
  · rintro ⟨t, s, hs, hpath, -⟩
    exact ⟨s, hs, hpath⟩

theorem Tracked.mem_steps_iff (ht : Tracked window reach ops h) (step : Nat) :
    step ∈ h.state.live.map (fun s => s.action.1) ↔ ∃ q, Waits ops h step q := by
  rw [List.mem_map]
  constructor
  · rintro ⟨s, hs, hstep⟩
    obtain ⟨q, -, hwaits⟩ :=
      (ht.exists_pends_iff s.path step).mp ⟨timerOf s, ht.pends_of_live hs, hstep⟩
    exact ⟨q, hwaits⟩
  · rintro ⟨q, hwaits⟩
    obtain ⟨t, hp, hstep⟩ := (ht.exists_pends_iff q step).mpr ⟨q, BEq.rfl, hwaits⟩
    obtain ⟨s, hs, -, rfl⟩ := (ht.pending q t).mpr hp
    exact ⟨s, hs, hstep⟩

/-! ## The order of what runs -/

theorem Tracked.time_le_clock (ht : Tracked window reach ops h) {e : Nat × (Nat × α)}
    (he : e ∈ h.ran) : e.1 ≤ clock ops := by
  obtain ⟨before, p, after, hops, hlen⟩ := ht.known e he
  have hmem : e ∈ ranFrom h before.length := List.mem_filter.mpr ⟨he, by simp [hlen]⟩
  obtain ⟨hran, hnot⟩ := ht.ran before p e.2.2 after hops
  by_cases hruns : Runs window reach before p after
  · rw [hran hruns, List.mem_singleton] at hmem
    have htime := hruns.2.le_clock_end
    rw [hmem, clock_split hops]
    exact htime
  · rw [hnot hruns] at hmem
    cases hmem

theorem Pends.clock_le {path : Path} {t : Timer (Nat × α)} {deadline : Nat}
    (hp : Pends window reach ops path t) (hdue : t.deadline = some deadline) :
    clock ops ≤ deadline := by
  obtain ⟨before, p, action, after, hops, -, hquiet, hruns, rfl⟩ := hp
  simp only [dueAfter] at hdue
  split at hdue
  · rename_i hw
    obtain rfl := Option.some.inj hdue
    have hclock : clock ops = clock before + clock after := clock_split hops
    apply Nat.le_of_not_lt
    intro hlt
    -- the clock would have passed the deadline with the path untouched
    have hpast : Elapses p (clock before) (clock before + windowAfter window before + 1) after :=
      elapses_of_clock (by omega) (by omega) fun between op rest hsplit htouch => by
        rw [hquiet op (by rw [hsplit]; simp)] at htouch
        cases htouch
    exact hruns ⟨hw, hpast.mono (by omega)⟩
  · cases hdue

theorem Tracked.clock_le_of_mem (ht : Tracked window reach ops h) {ms : Nat}
    {e : Nat × (Nat × α)} (he : e ∈ (h.state.advance ms).2) : clock ops ≤ e.1 := by
  obtain ⟨path, t, hp, -, hdeadline⟩ := ht.exists_of_mem_advance he
  exact hp.clock_le hdeadline

end Tracked

/-- Actions run in the order of their deadlines. -/
theorem ran_in_order (window reach : Nat) (late : Nat → Bool) (ops : List (Op α)) :
    (run window reach late ops).ran.Pairwise fun a b => a.1 ≤ b.1 := by
  induction hlen : ops.length generalizing ops with
  | zero =>
    rw [List.eq_nil_of_length_eq_zero hlen]
    exact List.Pairwise.nil
  | succ n ih =>
    obtain ⟨rest, op, rfl⟩ := eq_snoc_of_length_eq_succ hlen
    have hrest := ih rest (by simpa using hlen)
    have ht := tracked_run window reach late rest
    rw [run_snoc]
    cases op with
    | advance ms =>
      refine List.pairwise_append.mpr ⟨hrest, (ht.sound.advance_ran ms).2, fun a ha b hb => ?_⟩
      exact Nat.le_trans (ht.time_le_clock ha) (ht.clock_le_of_mem hb)
    | _ => exact hrest

/-- What a debouncer does, read off its history. -/
structure TrailingEdge (window reach : Nat) (late : Nat → Bool) (ops : List (Op α))
    (h : History α) : Prop where
  /-- An action whose window passes with its path untouched runs once, at the end of the window. -/
  runs_once : ∀ before p action after, ops = before ++ .schedule p action :: after →
    Runs window reach before p after → ranFrom h before.length =
      [(clock before + windowAfter window before, (before.length, action))]
  /-- Any other action does not run. -/
  else_never : ∀ before p action after, ops = before ++ .schedule p action :: after →
    ¬ Runs window reach before p after → ranFrom h before.length = []
  /-- By the clock: unless its window is empty, an action has run exactly when the
  clock has come to the end of the window and showed no less at every operation
  that touched the path. -/
  by_the_clock : ∀ before p action after, ops = before ++ .schedule p action :: after →
    0 < windowAfter window before →
    (ranFrom h before.length ≠ [] ↔
      windowAfter window before ≤ reach ∧
      clock before + windowAfter window before ≤ clock ops ∧
      ∀ between op rest, after = between ++ op :: rest → op.touches p = true →
        clock before + windowAfter window before ≤ clock before + clock between)
  /-- Actions run in the order of their deadlines. -/
  in_order : h.ran.Pairwise fun a b => a.1 ≤ b.1
  /-- Nothing runs that was not scheduled. -/
  only_scheduled : ∀ e ∈ h.ran, ∃ before p after,
    ops = before ++ .schedule p e.2.2 :: after ∧ before.length = e.2.1
  /-- No path has two entries in the table. -/
  one_entry : h.state.pending.Distinct
  /-- A path is pending exactly when the action last scheduled for it waits. -/
  isPending_iff : ∀ path, h.state.isPending path = true ↔
    ∃ step q, (q == path) = true ∧ Waits ops h step q
  /-- There are as many pending actions as steps whose action waits. -/
  pendingCount_eq : ∃ steps : List Nat, steps.Nodup ∧
    (∀ step, step ∈ steps ↔ ∃ q, Waits ops h step q) ∧ h.state.pendingCount = steps.length
  /-- A cancellation answers whether the action last scheduled for the path waits. -/
  withdraw_answers : ∀ path, (h.state.withdraw path late).2 = true ↔
    ∃ step q, (q == path) = true ∧ Waits ops h step q
  /-- It drops one action if it answers so, and none otherwise. -/
  withdraw_drops : ∀ path, (h.state.withdraw path late).1.pendingCount +
    (if (h.state.withdraw path late).2 then 1 else 0) = h.state.pendingCount
  /-- Other paths do not feel the operations on one path, nor which aborts come too late. -/
  others_pending : ∀ late' path q, ¬ (q == path) = true →
    (run window reach late' (ops.map (mute path))).state.isPending q = h.state.isPending q
  others_run : ∀ late' path before q action after, ops = before ++ .schedule q action :: after →
    ¬ (q == path) = true →
    ranFrom (run window reach late' (ops.map (mute path))) before.length = ranFrom h before.length
  /-- Where no abort comes too late, each task that sleeps has an action that is pending. -/
  none_left_over : late = inTime → h.state.tasks.length = h.state.pendingCount

/-- Where no abort comes too late, all tasks are in charge. -/
theorem tidy_run (window reach : Nat) (ops : List (Op α)) :
    Tidy (run window reach inTime ops).state := by
  induction hlen : ops.length generalizing ops with
  | zero =>
    rw [List.eq_nil_of_length_eq_zero hlen]
    rfl
  | succ n ih =>
    obtain ⟨rest, op, rfl⟩ := eq_snoc_of_length_eq_succ hlen
    have ht := ih rest (by simpa using hlen)
    have hsound := (tracked_run window reach inTime rest).sound
    rw [run_snoc]
    cases op with
    | schedule path action => exact ht.schedule hsound path _
    | cancel path => exact ht.withdraw path
    | cancelAll => exact ht.cancelAll
    | setWindow ms => exact ht
    | advance ms => exact ht.advance hsound ms

/-- **A debouncer runs exactly what a quiet window ends.** For every list of
operations, every reach of the clock, and whichever aborts come too late: an action
runs if and only if its window passes before an operation touches its path, once
and at the end of the window; the table holds one entry for each path whose last
action still waits. -/
theorem runs_exactly_at_deadline (window reach : Nat) (late : Nat → Bool) (ops : List (Op α)) :
    TrailingEdge window reach late ops (run window reach late ops) := by
  have ht := tracked_run window reach late ops
  have hpending : ∀ path, (run window reach late ops).state.isPending path = true ↔
      ∃ step q, (q == path) = true ∧ Waits ops (run window reach late ops) step q := by
    intro path
    rw [ht.isPending_iff]
    constructor
    · rintro ⟨t, hp⟩
      exact ⟨t.action.1, (ht.exists_pends_iff path _).mp ⟨t, hp, rfl⟩⟩
    · rintro ⟨step, hwaits⟩
      obtain ⟨t, hp, -⟩ := (ht.exists_pends_iff path step).mpr hwaits
      exact ⟨t, hp⟩
  refine
    { runs_once := fun before p action after hops => (ht.ran before p action after hops).1
      else_never := fun before p action after hops => (ht.ran before p action after hops).2
      by_the_clock := ?_
      in_order := ran_in_order window reach late ops
      only_scheduled := ht.known
      one_entry := ht.sound.distinct
      isPending_iff := hpending
      pendingCount_eq := ?_
      withdraw_answers := ?_
      withdraw_drops := ?_
      others_pending := ?_
      others_run := ?_
      none_left_over := ?_ }
  · intro before p action after hops hwindow
    have hclock : clock ops = clock before + clock after := clock_split hops
    rw [ne_eq, ht.ranFrom_eq_nil_iff hops, Classical.not_not, hclock]
    constructor
    · rintro ⟨hw, helapses⟩
      exact ⟨hw, helapses.le_clock_end, fun between op rest => helapses.le_clock⟩
    · rintro ⟨hw, htime, hall⟩
      exact ⟨hw, elapses_of_clock (by omega) htime hall⟩
  · refine ⟨_, ?_, ht.mem_steps_iff, ht.sound.pendingCount_eq.trans (List.length_map _).symm⟩
    exact List.pairwise_map.mpr ht.steps_distinct
  · intro path
    rw [withdraw_answer]
    exact hpending path
  · intro path
    rw [withdraw_answer, pendingCount, withdraw_pending]
    exact Table.size_erase ht.sound.distinct path
  · intro late' path q hne
    rw [Bool.eq_iff_iff, ht.isPending_iff, (tracked_run window reach late' _).isPending_iff]
    simp only [pends_map_mute hne]
  · intro late' path before q action after hops hne
    have hmuted : ops.map (mute path) =
        before.map (mute path) ++ .schedule q action :: after.map (mute path) := by
      rw [hops, List.map_append, List.map_cons, mute_eq_schedule.mpr ⟨rfl, hne⟩]
    have hm := (tracked_run window reach late' (ops.map (mute path))).ran _ q action _ hmuted
    rw [runs_map_mute, clock_map_mute, windowAfter_map_mute, List.length_map] at hm
    obtain ⟨hran, hnot⟩ := ht.ran before q action after hops
    by_cases hruns : Runs window reach before q after
    · rw [hran hruns, hm.1 hruns]
    · rw [hnot hruns, hm.2 hruns]
  · rintro rfl
    exact ht.sound.length_tasks (tidy_run window reach ops)

end Debouncer

end ClassLens
