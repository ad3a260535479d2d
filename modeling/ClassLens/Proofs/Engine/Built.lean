import ClassLens.Proofs.Engine.Keeping
import ClassLens.Proofs.Index.Trust
/-
  Built — sheets and components are made of texts, in every state

  Where the disk is up to a standard, everything that happens to an engine keeps
  to it, work that is interrupted included. The first standard is that sheets
  are what some text makes: whatever happens, every sheet an engine holds is
  made of a text, every component is built of its sheets, and no component holds
  two sheets of one path.

  What is proved:
    1. `keeps_holdsOnly` — everything that can happen keeps to a standard that
       the disk is up to;
    2. `yields_built` and `Workload.built_run` — all is built, in every state;
    3. `Workload.ownRuns_run` — and the run in flight for a component is about it.
-/

namespace ClassLens

/-- Everything that happens on a disk keeps to a standard that the disk is up to. -/
theorem keeps_holdsOnly {disk : Disk} {S : Standard} {K : Component → Prop}
    (h : Index.Yields disk S K) :
    Keeps disk (Index.HoldsOnly S.holds K) (Run.Carries S) fun job => ∀ p ∈ job.2, S.asks p where
  start := fun job hjob => Run.carries_start job.1 hjob
  step := fun _ _ hidx hr => hr.step hidx h
  rebuilds := fun _ _ hidx _ hjob => hidx.rebuilds h.asking hjob
  forget := fun _ sheet hidx => hidx.forget sheet
  unlist := fun _ _ hidx => ⟨hidx.cached, hidx.built⟩
  drop := fun _ component hidx => hidx.dropComponent component
  empty := Index.holdsOnly_empty _ _

/-- A component is built of sheets that are made of texts, no two of one path. -/
structure Component.IsBuilt (k : Component) : Prop where
  eq_build : k = Component.build k.path k.imports k.sheets
  sheets : ∀ s ∈ k.sheets, s.IsBuilt
  apart : Sheet.Apart k.sheets

/-- Sheets are made of texts; nothing is asked of anything else. -/
def Standard.built : Standard := ⟨fun _ => True, fun _ _ => True, Sheet.IsBuilt, fun _ => True⟩

/-- All sheets and components are built. -/
abbrev Index.Built : Index → Prop := HoldsOnly Sheet.IsBuilt Component.IsBuilt

theorem yields_built (disk : Disk) : Index.Yields disk .built Component.IsBuilt where
  stamping := fun _ _ _ _ => trivial
  reading := fun _ _ _ _ _ _ => rfl
  failing := fun _ _ _ _ => trivial
  building := fun _ _ _ _ hgathered => ⟨rfl, hgathered.holds, hgathered.sheets_apart⟩
  asking := fun _ _ _ _ => trivial

/-- Whatever happens to an engine, all it holds is built, and so is all that work
under way holds. -/
theorem Workload.built_run (window : Nat) (script : List (Disk × Action)) :
    (run window script).Kept Index.Built (Run.Carries .built)
      fun job => ∀ p ∈ job.2, Standard.built.asks p :=
  (kept_new window (Index.holdsOnly_empty _ _)).performAll
    fun step _ => ⟨keeps_holdsOnly (yields_built step.1), fun _ _ _ _ => trivial⟩

/-! ## Runs in flight -/

/-- Entries and queries belong to the runs that they name: an entry to a run of its
component that is not over, and a query that waits to one that is over or of its
component. -/
structure Flight.OwnRuns (f : Flight) : Prop where
  entries : ∀ c n, f.inFlight.get? c = some n →
    n < f.nextRun ∧ ∃ r, f.runs.get? n = some r ∧ (r.component == c) = true
  queries : ∀ q ∈ f.queries, ∀ n, q.state = .waiting n →
    n < f.nextRun ∧ ∀ r, f.runs.get? n = some r → (r.component == q.component) = true

namespace Flight.OwnRuns

variable {f : Flight} {i n : Nat} {q : Query}

theorem own (h : f.OwnRuns) {c : Path} {r : Run} (hentry : f.inFlight.get? c = some n)
    (hr : f.runs.get? n = some r) : (r.component == c) = true := by
  obtain ⟨-, r', hr', hc⟩ := h.entries c n hentry
  rwa [Option.some.inj (hr.symm.trans hr')]

theorem with_index (h : f.OwnRuns) (index : Index) : ({ f with index } : Flight).OwnRuns :=
  ⟨h.entries, h.queries⟩

theorem with_queries (h : f.OwnRuns) {queries : List Query}
    (hqueries : ∀ q ∈ queries, q ∈ f.queries ∨ ∀ n, q.state ≠ .waiting n) :
    ({ f with queries } : Flight).OwnRuns where
  entries := h.entries
  queries := by
    intro q hq n hwaits
    rcases hqueries q hq with hbefore | hnot
    · exact h.queries q hbefore n hwaits
    · exact absurd hwaits (hnot n)

theorem setState (h : f.OwnRuns) (i : Nat) {state : QueryState}
    (hstate : ∀ n, state = .waiting n → n < f.nextRun ∧ ∀ r, f.runs.get? n = some r →
      (r.component == q.component) = true) : (f.setState i q state).OwnRuns where
  entries := h.entries
  queries := by
    intro x hx n hwaits
    rcases List.mem_or_eq_of_mem_set hx with hbefore | rfl
    · exact h.queries x hbefore n hwaits
    · exact hstate n hwaits

theorem answer (h : f.OwnRuns) (i : Nat) (q : Query) (c : Option Component) :
    (f.setState i q (.answered c)).OwnRuns := h.setState i fun _ hwaits => by cases hwaits

/-- A run that is begun bears a number that no entry and no query has yet. -/
theorem begin (h : f.OwnRuns) (c : Path) (imports : List Path) :
    ({ f with
      inFlight := f.inFlight.insert c f.nextRun
      runs := f.runs.insert f.nextRun (Run.start c imports)
      nextRun := f.nextRun + 1 } : Flight).OwnRuns where
  entries := by
    intro d n hentry
    rcases Table.of_get?_insert hentry with ⟨hd, rfl⟩ | hbefore
    · exact ⟨Nat.lt_succ_self _, Run.start c imports,
        (Table.get?_insert ..).trans (if_pos BEq.rfl), hd⟩
    · obtain ⟨hlt, r, hr, hd⟩ := h.entries d n hbefore
      refine ⟨Nat.lt_succ_of_lt hlt, r, (Table.get?_insert ..).trans ?_, hd⟩
      rw [if_neg (by simpa using Nat.ne_of_gt hlt), hr]
  queries := by
    intro q hq n hwaits
    obtain ⟨hlt, hown⟩ := h.queries q hq n hwaits
    refine ⟨Nat.lt_succ_of_lt hlt, fun r hr => ?_⟩
    rcases Table.of_get?_insert hr with ⟨hn, -⟩ | hbefore
    · rw [← beq_iff_eq.mp hn] at hlt
      exact absurd hlt (Nat.lt_irrefl _)
    · exact hown r hbefore

theorem drive (h : f.OwnRuns) {r r' : Run} (hr : f.runs.get? n = some r)
    (hsame : r'.component = r.component) :
    ({ f with runs := f.runs.insert n r' } : Flight).OwnRuns where
  entries := by
    intro c m hentry
    obtain ⟨hlt, r₀, hr₀, hc⟩ := h.entries c m hentry
    refine ⟨hlt, ?_⟩
    show ∃ r₁, (f.runs.insert n r').get? m = some r₁ ∧ _
    rw [Table.get?_insert]
    split
    · rename_i hm
      rw [← beq_iff_eq.mp hm, hr] at hr₀
      exact ⟨r', rfl, by rwa [hsame, Option.some.inj hr₀]⟩
    · exact ⟨r₀, hr₀, hc⟩
  queries := by
    intro q hq m hwaits
    obtain ⟨hlt, hown⟩ := h.queries q hq m hwaits
    refine ⟨hlt, fun r₁ hr₁ => ?_⟩
    rcases Table.of_get?_insert hr₁ with ⟨hm, rfl⟩ | hbefore
    · rw [hsame]
      exact hown r (beq_iff_eq.mp hm ▸ hr)
    · exact hown r₁ hbefore

/-- When a run is over, the one entry that names it leaves the table. -/
theorem finish (h : f.OwnRuns) {r : Run} {c : Path} (hr : f.runs.get? n = some r)
    (hc : (r.component == c) = true) :
    ({ f with
      inFlight :=
        if f.inFlight.get? c = some n then f.inFlight.erase c else f.inFlight
      runs := f.runs.erase n } : Flight).OwnRuns where
  entries := by
    intro d m hentry
    have hbefore : f.inFlight.get? d = some m := by
      simp only at hentry
      split at hentry
      · exact Table.of_get?_erase hentry
      · exact hentry
    obtain ⟨hlt, r', hr', hd⟩ := h.entries d m hbefore
    refine ⟨hlt, r', ?_, hd⟩
    show (f.runs.erase n).get? m = _
    rw [Table.get?_erase, if_neg, hr']
    intro hm
    rw [← beq_iff_eq.mp hm] at hbefore hr'
    rw [Option.some.inj (hr.symm.trans hr')] at hc
    have hcd : (c == d) = true := BEq.trans (BEq.symm hc) hd
    have hflies : f.inFlight.get? c = some n := (Table.get?_congr _ hcd).trans hbefore
    simp only [if_pos hflies] at hentry
    rw [Table.get?_erase, if_pos hcd] at hentry
    cases hentry
  queries := fun q hq m hwaits =>
    ⟨(h.queries q hq m hwaits).1, fun r' hr' =>
      (h.queries q hq m hwaits).2 r' (Table.of_get?_erase hr')⟩

/-- A query that answers because its run is over finds no entry of that run. -/
theorem land (h : f.OwnRuns) (i : Nat) (q : Query) (hended : f.runs.get? n = none) :
    (f.land i q n).OwnRuns := by
  unfold Flight.land
  simp only
  rw [if_neg]
  · exact h.answer ..
  · intro hentry
    obtain ⟨-, r, hr, -⟩ := h.entries q.component n hentry
    rw [hended] at hr
    cases hr

theorem step (h : f.OwnRuns) (disk : Disk) (i : Nat) : (f.step disk i).OwnRuns := by
  unfold Flight.step
  split
  · exact h
  · rename_i q hq
    split
    · unfold startQuery
      split
      · exact h.answer ..
      · split
        · rename_i n hentry
          obtain ⟨hlt, -⟩ := h.entries q.component n hentry
          exact h.setState i fun m hm => by
            cases hm
            exact ⟨hlt, fun r hr => h.own hentry hr⟩
        · refine (h.begin q.component q.imports).setState i fun m hm => ?_
          cases hm
          refine ⟨Nat.lt_succ_self _, fun r hr => ?_⟩
          rw [← Option.some.inj (((Table.get?_insert ..).trans (if_pos BEq.rfl)).symm.trans hr)]
          exact BEq.rfl
    · rename_i n hwaits
      obtain ⟨-, hown⟩ := h.queries q (List.mem_of_getElem? hq) n hwaits
      unfold await
      split
      · rename_i hended
        exact h.land i q hended
      · rename_i r hr
        split
        · rename_i index r' hstep
          exact (h.drive hr (Run.step_some hstep).2.1).with_index index
        · rename_i index hstep
          exact ((h.finish hr (hown r hr)).with_index index).answer ..
    · exact h

theorem ask (h : f.OwnRuns) (disk : Disk) (component : Path) (imports : List Path) :
    (f.ask disk component imports).1.OwnRuns := by
  unfold Flight.ask
  split
  · exact h
  · simp only
    split
    · rename_i n hentry
      obtain ⟨-, r, hr, hc⟩ := h.entries component n hentry
      have hover := h.finish hr hc
      rw [if_pos hentry] at hover
      exact hover.with_index _
    · exact h.with_index _

end Flight.OwnRuns

/-- A query that nothing interrupts has nothing to do with the others. -/
theorem Flight.ask_queries (disk : Disk) (f : Flight) (queries : List Query) (component : Path)
    (imports : List Path) :
    { (ask disk { f with queries } component imports).1 with queries := f.queries } =
      (ask disk f component imports).1 := by
  unfold ask joined
  cases f.index.components.get? component <;> cases f.inFlight.get? component <;> rfl

namespace Workload

theorem ownRuns_perform {w : Workload} (h : w.flight.OwnRuns) (disk : Disk) (a : Action) :
    (w.perform disk a).flight.OwnRuns := by
  cases a with
  | ensure component imports =>
    have hasked := h.ask disk component imports
    rw [← Flight.ask_queries disk w.flight [] component imports] at hasked
    exact hasked
  | clear => exact ⟨fun _ _ hentry => (by cases hentry), h.queries⟩
  | stepQuery i => exact h.step disk i
  | beginQuery component imports =>
    refine h.with_queries fun q hq => ?_
    rcases List.mem_append.mp hq with hq | hq
    · exact .inl hq
    · rw [List.mem_singleton.mp hq]
      exact .inr fun n hn => by cases hn
  | abandonQuery i => exact h.with_queries fun q hq => .inl (List.mem_of_mem_eraseIdx hq)
  | stepTask i =>
    show (w.stepTask disk i).flight.OwnRuns
    unfold Workload.stepTask
    split
    · exact h
    · exact h.with_index _
  | dispatch watch change =>
    show (Engine.flight (watch.dispatch disk w.engine change) _).OwnRuns
    unfold Watch.dispatch
    split <;> exact h.with_index _
  | advance ms =>
    have hadvance : (w.engine.advance disk ms).inFlight = w.flight.inFlight ∧
        (w.engine.advance disk ms).runs = w.flight.runs ∧
        (w.engine.advance disk ms).nextRun = w.flight.nextRun :=
      List.foldlRecOn (motive := fun e : Engine => e.inFlight = w.flight.inFlight ∧
        e.runs = w.flight.runs ∧ e.nextRun = w.flight.nextRun) _ _ ⟨rfl, rfl, rfl⟩
        fun _ h _ _ => h
    obtain ⟨hflights, hruns, hnext⟩ := hadvance
    have hflight : (w.engine.advance disk ms).flight w.flight.queries =
        { w.flight with index := (w.engine.advance disk ms).index } := by
      unfold Engine.flight
      rw [hflights, hruns, hnext]
    show ((w.engine.advance disk ms).flight w.flight.queries).OwnRuns
    rw [hflight]
    exact h.with_index _
  | _ => exact h.with_index _

theorem ownRuns_run (window : Nat) (script : List (Disk × Action)) :
    (run window script).flight.OwnRuns :=
  List.foldlRecOn (motive := fun w : Workload => w.flight.OwnRuns) script _
    ⟨fun _ _ hentry => (by cases hentry), fun _ hq => (by cases hq)⟩
    fun _ h step _ => ownRuns_perform h step.1 step.2

end Workload

end ClassLens
