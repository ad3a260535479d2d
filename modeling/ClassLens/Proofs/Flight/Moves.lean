import ClassLens.Engine.Flight
import ClassLens.Proofs.Flight.Turns
/-
  Moves — what one step of a query can do

  A query that moves on answers at once, joins a run, begins one, drives one
  on, brings one to its end and answers, or answers because another query did.
  `Move` has one case for each, with the run that is begun and the component
  that is installed; everything about flights is derived from it.

  What is proved:
    1. `step_move` — a step of a query is one of its moves;
    2. `Move.left_lt`, `Move.answered` — every move of a query without an
       answer brings the end nearer, and answers stay.
-/

namespace ClassLens

/-! ## Sums over tables -/

namespace Table

variable {κ α : Type} [BEq κ]

/-- The steps of all values. -/
def total (steps : α → Nat) (t : Table κ α) : Nat := totalSteps steps t.values

theorem total_insert_new (steps : α → Nat) {t : Table κ α} {k : κ} (h : t.get? k = none) (v : α) :
    (t.insert k v).total steps = t.total steps + steps v := by
  obtain ⟨es⟩ := t
  unfold total values insert
  unfold get? at h
  induction es with
  | nil => simp [put]
  | cons e rest ih =>
    simp only [lookup] at h
    split at h
    · cases h
    · rename_i hk
      have ih := ih h
      simp only [put, hk, Bool.false_eq_true, if_false, List.map_cons, totalSteps_cons] at ih ⊢
      omega

theorem total_insert (steps : α → Nat) {t : Table κ α} {k : κ} {w : α} (h : t.get? k = some w)
    (v : α) : (t.insert k v).total steps + steps w = t.total steps + steps v := by
  obtain ⟨es⟩ := t
  unfold total values insert
  unfold get? at h
  induction es with
  | nil => cases h
  | cons e rest ih =>
    simp only [lookup] at h
    split at h
    · rename_i hk
      cases h
      simp only [put, hk, if_true, List.map_cons, totalSteps_cons]
      omega
    · rename_i hk
      have ih := ih h
      simp only [put, hk, Bool.false_eq_true, if_false, List.map_cons, totalSteps_cons] at ih ⊢
      omega

theorem total_erase (steps : α → Nat) {t : Table κ α} {k : κ} {w : α} (h : t.get? k = some w) :
    (t.erase k).total steps + steps w ≤ t.total steps := by
  obtain ⟨es⟩ := t
  have hless : ∀ es : List (κ × α),
      totalSteps steps ((es.filter fun e => !(e.1 == k)).map (·.2)) ≤
        totalSteps steps (es.map (·.2)) := by
    intro es
    induction es with
    | nil => exact Nat.le_refl _
    | cons e rest ih =>
      rw [List.filter_cons]
      split <;> simp only [List.map_cons, totalSteps_cons] <;> omega
  unfold total values erase
  unfold get? at h
  induction es with
  | nil => cases h
  | cons e rest ih =>
    simp only [lookup] at h
    split at h
    · rename_i hk
      cases h
      have hrest := hless rest
      simp only [hk, Bool.not_true, Bool.false_eq_true, not_false_eq_true, List.filter_cons_of_neg,
        List.map_cons, totalSteps_cons]
      omega
    · rename_i hk
      have ih := ih h
      simp only [hk, Bool.not_false, List.filter_cons_of_pos, List.map_cons, totalSteps_cons] at ih ⊢
      omega

end Table

namespace Flight

/-! ## Steps of a query -/

/-- The run under way that a query waits for, with its number. -/
def runOf? (f : Flight) (i : Nat) : Option (Nat × Run) :=
  (f.queries[i]?).bind fun q =>
    match q.state with
    | .waiting n => (f.runs.get? n).map fun r => (n, r)
    | _ => none

/-- The run that a step begins: what then stands under the number that was next. -/
def begunBy (disk : Disk) (f : Flight) (i : Nat) : Option Run :=
  (f.step disk i).runs.get? f.nextRun

/-- The component that a step installs: what the index then holds for a run that
the step has brought to its end. -/
def installedBy (disk : Disk) (f : Flight) (i : Nat) : Option Component :=
  (f.runOf? i).bind fun (n, r) =>
    if (f.step disk i).runs.contains n then none
    else (f.step disk i).index.components.get? r.component

/-- A flight with the runs begun and the components installed so far. -/
structure Log where
  flight : Flight
  begun : List Run
  installed : List Component

/-- One query moves on, and what came of it is written down. -/
def Log.next (disk : Disk) (l : Log) (i : Nat) : Log where
  flight := l.flight.step disk i
  begun := l.begun ++ (l.flight.begunBy disk i).toList
  installed := l.installed ++ (l.flight.installedBy disk i).toList

/-- Queries move on in the given order. -/
def record (disk : Disk) (f : Flight) (order : List Nat) : Log :=
  order.foldl (Log.next disk) ⟨f, [], []⟩

theorem record_flight (disk : Disk) (f : Flight) (order : List Nat) :
    (record disk f order).flight = f.steps disk order := by
  unfold record steps
  generalize ([] : List Run) = begun, ([] : List Component) = installed
  induction order generalizing f begun installed with
  | nil => rfl
  | cons i rest ih => exact ih _ _ _

/-- What a query does when it moves on: the flight after it, and what it begins
and installs. -/
inductive Move (disk : Disk) (f : Flight) (i : Nat) (q : Query) :
    Flight → Option Run → Option Component → Prop where
  | idle {a : Option Component} (answered : q.state = .answered a) : Move disk f i q f none none
  | answer {k : Component} (starts : q.state = .starting)
      (found : f.index.components.get? q.component = some k) :
      Move disk f i q (f.setState i q (.answered (some k))) none none
  | join {n : Nat} (starts : q.state = .starting)
      (missing : f.index.components.get? q.component = none)
      (flies : f.inFlight.get? q.component = some n) :
      Move disk f i q (f.setState i q (.waiting n)) none none
  | start (starts : q.state = .starting)
      (missing : f.index.components.get? q.component = none)
      (free : f.inFlight.get? q.component = none) :
      Move disk f i q
        (setState
          { f with
            inFlight := f.inFlight.insert q.component f.nextRun
            runs := f.runs.insert f.nextRun (Run.start q.component q.imports)
            nextRun := f.nextRun + 1 } i q (.waiting f.nextRun))
        (some (Run.start q.component q.imports)) none
  | drive {n : Nat} {r r' : Run} {idx : Index} (waits : q.state = .waiting n)
      (run : f.runs.get? n = some r) (step : Run.step disk f.index r = (idx, some r')) :
      Move disk f i q { f with index := idx, runs := f.runs.insert n r' } none none
  | finish {n : Nat} {r : Run} {idx : Index} (waits : q.state = .waiting n)
      (run : f.runs.get? n = some r) (step : Run.step disk f.index r = (idx, none)) :
      Move disk f i q (land { f with index := idx, runs := f.runs.erase n } i q n) none
        (some (Component.build r.component r.imports r.sheets))
  | land {n : Nat} (waits : q.state = .waiting n) (ended : f.runs.get? n = none) :
      Move disk f i q (f.land i q n) none none

/-- No number is in use that is still to be given. -/
def Numbered (f : Flight) : Prop := ∀ n r, f.runs.get? n = some r → n < f.nextRun

section Steps

variable {disk : Disk} {f : Flight} {i : Nat} {q : Query}

theorem Numbered.get?_nextRun (h : f.Numbered) : f.runs.get? f.nextRun = none := by
  cases hget : f.runs.get? f.nextRun with
  | none => rfl
  | some r => exact absurd (h _ r hget) (Nat.lt_irrefl _)

theorem step_absent (h : f.Numbered) (disk : Disk) (hq : f.queries[i]? = none) :
    f.step disk i = f ∧ f.begunBy disk i = none ∧ f.installedBy disk i = none := by
  have hstep : f.step disk i = f := by
    unfold step
    rw [hq]
  refine ⟨hstep, ?_, ?_⟩
  · unfold begunBy
    rw [hstep, h.get?_nextRun]
  · unfold installedBy runOf?
    rw [hq]
    rfl

/-- A step of a query is one of its moves. -/
theorem step_move (h : f.Numbered) (disk : Disk) (hq : f.queries[i]? = some q) :
    Move disk f i q (f.step disk i) (f.begunBy disk i) (f.installedBy disk i) := by
  unfold begunBy installedBy runOf? step
  simp only [hq, Option.bind_some]
  cases hstate : q.state with
  | answered a =>
    simp only [Option.bind_none, h.get?_nextRun]
    exact .idle hstate
  | starting =>
    simp only [Option.bind_none]
    unfold startQuery
    split
    · rename_i k hk
      simp only [setState, h.get?_nextRun]
      exact .answer hstate hk
    · rename_i hmissing
      split
      · rename_i n hn
        simp only [setState, h.get?_nextRun]
        exact .join hstate hmissing hn
      · rename_i hfree
        have hbegun : (f.runs.insert f.nextRun (Run.start q.component q.imports)).get?
            f.nextRun = some (Run.start q.component q.imports) := by
          rw [Table.get?_insert, if_pos BEq.rfl]
        simp only [setState, hbegun]
        exact .start hstate hmissing hfree
  | waiting n =>
    simp only
    unfold await
    cases hr : f.runs.get? n with
    | none =>
      simp only [Option.map_none, Option.bind_none, Flight.land, setState, h.get?_nextRun]
      exact .land hstate hr
    | some r =>
      have hn : (n == f.nextRun) = false := by
        have hlt := h n r hr
        exact beq_false_of_ne (by omega)
      simp only [Option.map_some, Option.bind_some]
      cases hstep : Run.step disk f.index r with
      | mk idx left =>
        cases left with
        | some r' =>
          have hbegun : (f.runs.insert n r').get? f.nextRun = none := by
            rw [Table.get?_insert, hn]
            exact h.get?_nextRun
          have hgoes : (f.runs.insert n r').contains n = true := by
            unfold Table.contains
            rw [Table.get?_insert, if_pos BEq.rfl]
            rfl
          simp only [hbegun, hgoes, if_true]
          exact .drive hstate hr hstep
        | none =>
          have hbegun : (f.runs.erase n).get? f.nextRun = none := by
            rw [Table.get?_erase, hn]
            exact h.get?_nextRun
          have hover : (f.runs.erase n).contains n = false := by
            unfold Table.contains
            rw [Table.get?_erase, if_pos BEq.rfl]
            rfl
          have hmade : idx.components.get? r.component =
              some (Component.build r.component r.imports r.sheets) := by
            rw [Run.get?_of_step_none hstep, if_pos BEq.rfl]
          simp only [Flight.land, setState, hbegun, hover, hmade]
          exact .finish hstate hr hstep

end Steps

/-! ## What is left to do -/

/-- The most steps that a query will still take or cause. -/
def load (q : Query) : Nat :=
  match q.state with
  | .starting => 5 * q.imports.length + 4
  | .waiting _ => 1
  | .answered _ => 0

/-- The most steps that the queries will still take. -/
def left (f : Flight) : Nat := totalSteps load f.queries + f.runs.total fun r => r.stepsLeft + 1

/-- The query with the given number has its answer. -/
def Answered (f : Flight) (i : Nat) : Prop :=
  ∃ (q : Query) (a : Option Component), f.queries[i]? = some q ∧ q.state = .answered a

section Progress

variable {disk : Disk} {f f' : Flight} {i : Nat} {q : Query} {b : Option Run}
  {m : Option Component}

theorem totalSteps_set {qs : List Query} (hq : qs[i]? = some q) (x : Query) :
    totalSteps load (qs.set i x) + load q = totalSteps load qs + load x := by
  induction qs generalizing i with
  | nil => simp at hq
  | cons y rest ih =>
    cases i with
    | zero =>
      simp only [List.getElem?_cons_zero, Option.some.injEq] at hq
      subst hq
      simp only [List.set_cons_zero, totalSteps_cons]
      omega
    | succ i =>
      have ih := ih (by simpa using hq)
      simp only [List.set_cons_succ, totalSteps_cons]
      omega

theorem left_setState (hq : f.queries[i]? = some q) (state : QueryState) :
    (f.setState i q state).left + load q = f.left + load { q with state } := by
  have hsum := totalSteps_set hq { q with state }
  unfold left
  show totalSteps load (f.queries.set i { q with state }) + _ + _ = _
  simp only [setState]
  omega

theorem load_starting (h : q.state = .starting) : load q = 5 * q.imports.length + 4 := by
  unfold load
  rw [h]

theorem load_waiting {n : Nat} (h : q.state = .waiting n) : load q = 1 := by
  unfold load
  rw [h]

/-- A query without an answer brings the end nearer whenever it moves on. -/
theorem Move.left_lt (hmove : Move disk f i q f' b m) (hq : f.queries[i]? = some q)
    (hnumbered : f.Numbered) (hopen : ∀ a, q.state ≠ .answered a) : f'.left < f.left := by
  cases hmove with
  | idle answered => exact absurd answered (hopen _)
  | @answer k starts found =>
    have hleft := left_setState hq (.answered (some k))
    have hanswered : load { q with state := .answered (some k) } = 0 := rfl
    rw [load_starting starts, hanswered] at hleft
    omega
  | @join n starts missing flies =>
    have hleft := left_setState hq (.waiting n)
    have hwaiting : load { q with state := .waiting n } = 1 := rfl
    rw [load_starting starts, hwaiting] at hleft
    omega
  | @land n waits ended =>
    have hleft := left_setState hq (.answered (f.index.components.get? q.component))
    have hanswered :
        load { q with state := .answered (f.index.components.get? q.component) } = 0 := rfl
    rw [load_waiting waits, hanswered] at hleft
    show (f.setState i q (.answered (f.index.components.get? q.component))).left < f.left
    omega
  | start starts missing free =>
    -- the run takes over what the query would have caused
    have hsum := totalSteps_set hq { q with state := .waiting f.nextRun }
    have hwaiting : load { q with state := .waiting f.nextRun } = 1 := rfl
    have hrun := Table.total_insert_new (fun r : Run => r.stepsLeft + 1) hnumbered.get?_nextRun
      (Run.start q.component q.imports)
    have hsteps := Run.stepsLeft_start q.component q.imports
    rw [load_starting starts, hwaiting] at hsum
    rw [hsteps] at hrun
    unfold left
    simp only [setState]
    omega
  | @drive n r r' idx waits run step =>
    have hless := (Run.step_some step).2.2.2
    have hrun := Table.total_insert (fun r : Run => r.stepsLeft + 1) run r'
    simp only [left]
    omega
  | @finish n r idx waits run step =>
    have hrun := Table.total_erase (fun r : Run => r.stepsLeft + 1) run
    have hsum := totalSteps_set hq { q with state := .answered (idx.components.get? q.component) }
    have hanswered :
        load { q with state := .answered (idx.components.get? q.component) } = 0 := rfl
    rw [load_waiting waits, hanswered] at hsum
    show totalSteps load (f.queries.set i
        { q with state := .answered (idx.components.get? q.component) }) +
      (f.runs.erase n).total (fun r => r.stepsLeft + 1) < f.left
    unfold left
    omega

theorem Move.left_le (hmove : Move disk f i q f' b m) (hq : f.queries[i]? = some q)
    (hnumbered : f.Numbered) : f'.left ≤ f.left := by
  cases hstate : q.state with
  | answered a =>
    cases hmove with
    | idle answered => exact Nat.le_refl _
    | answer starts found => rw [hstate] at starts; cases starts
    | join starts missing flies => rw [hstate] at starts; cases starts
    | start starts missing free => rw [hstate] at starts; cases starts
    | drive waits run step => rw [hstate] at waits; cases waits
    | finish waits run step => rw [hstate] at waits; cases waits
    | land waits ended => rw [hstate] at waits; cases waits
  | starting => exact Nat.le_of_lt (hmove.left_lt hq hnumbered fun a => by simp [hstate])
  | waiting n => exact Nat.le_of_lt (hmove.left_lt hq hnumbered fun a => by simp [hstate])

theorem Move.answered {j : Nat} (hmove : Move disk f i q f' b m) (hq : f.queries[i]? = some q)
    (h : f.Answered j) : f'.Answered j := by
  obtain ⟨x, a, hx, ha⟩ := h
  have hset : ∀ {g : Flight} {state : QueryState}, g.queries = f.queries →
      (∀ a, q.state ≠ .answered a) → (g.setState i q state).Answered j := by
    intro g state hqueries hopen
    have hij : i ≠ j := by
      rintro rfl
      rw [hq] at hx
      cases hx
      exact hopen a ha
    refine ⟨x, a, ?_, ha⟩
    show (g.queries.set i { q with state })[j]? = some x
    rw [List.getElem?_set_ne hij, hqueries, hx]
  cases hmove with
  | idle answered => exact ⟨x, a, hx, ha⟩
  | answer starts found => exact hset rfl fun a => by simp [starts]
  | join starts missing flies => exact hset rfl fun a => by simp [starts]
  | start starts missing free => exact hset rfl fun a => by simp [starts]
  | drive waits run step => exact ⟨x, a, hx, ha⟩
  | finish waits run step => exact hset rfl fun a => by simp [waits]
  | land waits ended => exact hset rfl fun a => by simp [waits]

end Progress

theorem left_begin (idx : Index) (queries : List (Path × List Path)) :
    (begin idx queries).left = (begin idx queries).roundsNeeded := by
  have hload : totalSteps load (begin idx queries).queries =
      totalSteps (fun q => 5 * q.imports.length + 4) (begin idx queries).queries := by
    unfold begin
    simp only
    induction queries with
    | nil => rfl
    | cons first rest ih => rw [List.map_cons, totalSteps_cons, ih, totalSteps_cons, load]
  unfold left roundsNeeded
  rw [hload]
  rfl

theorem answered_of_left_eq_zero {f : Flight} {i : Nat} (h : f.left = 0)
    (hi : i < f.queries.length) : f.Answered i := by
  have hload : load f.queries[i] = 0 := by
    -- the sum without this query's load is a sum of loads as well
    have hsum := totalSteps_set (List.getElem?_eq_getElem hi)
      { f.queries[i] with state := .answered none }
    have hnone : load { f.queries[i] with state := .answered none } = 0 := rfl
    unfold left at h
    omega
  refine ⟨f.queries[i], ?_⟩
  cases hstate : f.queries[i].state with
  | starting =>
    rw [load_starting hstate] at hload
    omega
  | waiting n =>
    rw [load_waiting hstate] at hload
    omega
  | answered a => exact ⟨a, List.getElem?_eq_getElem hi, rfl⟩

end Flight

end ClassLens
