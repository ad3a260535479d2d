import ClassLens.Proofs.Flight.Moves
/-
  Sharing — first queries for one component share one run

  Queries come at any time and are moved on in any order. A query for a
  component finds it in one of three states: nobody has asked yet, a run is in
  flight, or the run is over and the table is clear again. `Course` says what the flight looks like in each of them, with the run that
  was begun and the component that was installed so far.

  What is proved:
    1. `Before.move`, `During.move`, `After.move` — the query that moves on
       keeps its component on its course;
    2. `Move.apart` — and leaves the other components alone;
    3. `Shares.next` and `shares_record` — so does every step of a flight, and
       every order of steps;
    4. `queries_share_one_run` — one run for each component, one component for
       all its queries, and nothing left in flight.
-/

namespace ClassLens

namespace Flight

/-! ## The course of the queries for one component -/

/-- The first of the queries for a component to be moved on. -/
def firstQuery? (queries : List (Path × List Path)) (order : List Nat) (c : Path) :
    Option (Path × List Path) :=
  order.findSome? fun i => (queries[i]?).filter (·.1 == c)

/-- Some query for a component waits for the run with a number. -/
def Waits (f : Flight) (c : Path) (n : Nat) : Prop :=
  ∃ (i : Nat) (q : Query), f.queries[i]? = some q ∧ (q.component == c) = true ∧
    q.state = .waiting n

section Courses

variable (queries : List (Path × List Path)) (order : List Nat) (l : Log) (c : Path)

/-- Nobody has asked for the component yet. -/
structure Before : Prop where
  first : firstQuery? queries order c = none
  missing : l.flight.index.components.get? c = none
  free : l.flight.inFlight.get? c = none
  begun : l.begun.filter (·.component == c) = []
  installed : l.installed.filter (·.path == c) = []
  states : ∀ q ∈ l.flight.queries, (q.component == c) = true → q.state = .starting

/-- The run with a number is in flight, as the first query `q₀` asked for. -/
structure During (q₀ : Path × List Path) (n : Nat) : Prop where
  first : firstQuery? queries order c = some q₀
  missing : l.flight.index.components.get? c = none
  flies : l.flight.inFlight.get? c = some n
  begun : l.begun.filter (·.component == c) = [Run.start q₀.1 q₀.2]
  own : l.begun[n]? = some (Run.start q₀.1 q₀.2)
  run : ∃ r, l.flight.runs.get? n = some r ∧ r.component = q₀.1 ∧ r.imports = q₀.2
  installed : l.installed.filter (·.path == c) = []
  states : ∀ q ∈ l.flight.queries, (q.component == c) = true →
    q.state = .starting ∨ q.state = .waiting n
  waiter : l.flight.Waits c n

/-- The run is over and has installed `k`; its entry has left the table. -/
structure After (q₀ : Path × List Path) (n : Nat) (k : Component) : Prop where
  first : firstQuery? queries order c = some q₀
  found : l.flight.index.components.get? c = some k
  made : k.path = q₀.1 ∧ k.imports = q₀.2
  begun : l.begun.filter (·.component == c) = [Run.start q₀.1 q₀.2]
  own : l.begun[n]? = some (Run.start q₀.1 q₀.2)
  ended : l.flight.runs.get? n = none
  installed : l.installed.filter (·.path == c) = [k]
  states : ∀ q ∈ l.flight.queries, (q.component == c) = true →
    q.state = .starting ∨ q.state = .waiting n ∨ q.state = .answered (some k)
  clear : l.flight.inFlight.get? c = none

/-- How far the queries for a component have come. -/
inductive Course : Prop where
  | before (h : Before queries order l c)
  | during {q₀ : Path × List Path} {n : Nat} (h : During queries order l c q₀ n)
  | after {q₀ : Path × List Path} {n : Nat} {k : Component} (h : After queries order l c q₀ n k)

end Courses

section Moves

variable {disk : Disk} {queries : List (Path × List Path)} {order : List Nat} {l : Log} {c : Path}
  {i n : Nat} {q : Query} {q₀ : Path × List Path} {k : Component}
  {f' : Flight} {b : Option Run} {m : Option Component}

theorem firstQuery?_snoc (queries : List (Path × List Path)) (order : List Nat) (i : Nat)
    (c : Path) :
    firstQuery? queries (order ++ [i]) c =
      (firstQuery? queries order c).or ((queries[i]?).filter (·.1 == c)) := by
  unfold firstQuery?
  rw [List.findSome?_append, List.findSome?_singleton]

theorem firstQuery?_snoc_some (h : firstQuery? queries order c = some q₀) (i : Nat) :
    firstQuery? queries (order ++ [i]) c = some q₀ := by
  rw [firstQuery?_snoc, h, Option.some_or]

theorem beq_of_firstQuery? (h : firstQuery? queries order c = some q₀) :
    (q₀.1 == c) = true := by
  obtain ⟨i, -, hi⟩ := List.exists_of_findSome?_eq_some h
  exact (Option.filter_eq_some_iff.mp hi).2

theorem mem_setState {f : Flight} {state : QueryState} {x : Query}
    (h : x ∈ (f.setState i q state).queries) : x ∈ f.queries ∨ x = { q with state } :=
  List.mem_or_eq_of_mem_set h

theorem mem_of_mem_setState {f : Flight} {state : QueryState} {x : Query}
    (hqc : (q.component == c) = false) (h : x ∈ (f.setState i q state).queries)
    (hxc : (x.component == c) = true) : x ∈ f.queries := by
  rcases mem_setState h with hold | rfl
  · exact hold
  · rw [show (q.component == c) = true from hxc] at hqc
    cases hqc

theorem Waits.setState {f : Flight} (h : f.Waits c n) (hq : f.queries[i]? = some q)
    (hother : (q.component == c) = true → q.state ≠ .waiting n) (state : QueryState) :
    (f.setState i q state).Waits c n := by
  obtain ⟨j, x, hx, hxc, hxn⟩ := h
  have hij : i ≠ j := by
    rintro rfl
    rw [hq] at hx
    cases hx
    exact hother hxc hxn
  exact ⟨j, x, (List.getElem?_set_ne hij).trans hx, hxc, hxn⟩

theorem During.number_eq (h : During queries order l c q₀ n) (hq : l.flight.queries[i]? = some q)
    (hqc : (q.component == c) = true) {m : Nat} (hwaits : q.state = .waiting m) : m = n := by
  rcases h.states q (List.mem_of_getElem? hq) hqc with hs | hs <;> rw [hs] at hwaits <;>
    cases hwaits
  rfl

theorem After.number_eq (h : After queries order l c q₀ n k) (hq : l.flight.queries[i]? = some q)
    (hqc : (q.component == c) = true) {m : Nat} (hwaits : q.state = .waiting m) : m = n := by
  rcases h.states q (List.mem_of_getElem? hq) hqc with hs | hs | hs <;> rw [hs] at hwaits <;>
    cases hwaits
  rfl

/-- The first query for a component begins the run. -/
theorem Before.move (h : Before queries order l c) (hcount : l.begun.length = l.flight.nextRun)
    (hasked : queries[i]? = some (q.component, q.imports)) (hq : l.flight.queries[i]? = some q)
    (hqc : (q.component == c) = true) (hmove : Move disk l.flight i q f' b m) :
    During queries (order ++ [i]) ⟨f', l.begun ++ b.toList, l.installed ++ m.toList⟩ c
      (q.component, q.imports) l.flight.nextRun := by
  have hstarts : q.state = .starting := h.states q (List.mem_of_getElem? hq) hqc
  have hi : i < l.flight.queries.length := (List.getElem?_eq_some_iff.mp hq).1
  cases hmove with
  | start starts missing free =>
    simp only [Option.toList_some, Option.toList_none, List.append_nil]
    constructor
    · rw [firstQuery?_snoc, h.first, Option.none_or, hasked]
      simp [Option.filter, hqc]
    · exact h.missing
    · show (l.flight.inFlight.insert q.component l.flight.nextRun).get? c = _
      rw [Table.get?_insert, if_pos hqc]
    · rw [List.filter_append, h.begun]
      simp [Run.start, hqc]
    · rw [List.getElem?_append_right (Nat.le_of_eq hcount), hcount, Nat.sub_self]
      rfl
    · refine ⟨Run.start q.component q.imports, ?_, rfl, rfl⟩
      show (l.flight.runs.insert l.flight.nextRun _).get? l.flight.nextRun = _
      rw [Table.get?_insert, if_pos BEq.rfl]
    · exact h.installed
    · intro x hx hxc
      rcases mem_setState hx with hold | rfl
      · exact .inl (h.states x hold hxc)
      · exact .inr rfl
    · exact ⟨i, _, List.getElem?_set_self hi, hqc, rfl⟩
  | idle answered => rw [hstarts] at answered; cases answered
  | answer starts found =>
    rw [Table.get?_congr _ hqc, h.missing] at found
    cases found
  | join starts missing flies =>
    rw [Table.get?_congr _ hqc, h.free] at flies
    cases flies
  | drive waits run step => rw [hstarts] at waits; cases waits
  | finish waits run step => rw [hstarts] at waits; cases waits
  | land waits ended => rw [hstarts] at waits; cases waits

/-- While the run is in flight queries join it, or drive it on to its end. -/
theorem During.move (h : During queries order l c q₀ n) (hq : l.flight.queries[i]? = some q)
    (hqc : (q.component == c) = true) (hmove : Move disk l.flight i q f' b m) :
    Course queries (order ++ [i]) ⟨f', l.begun ++ b.toList, l.installed ++ m.toList⟩ c := by
  have hfirst := firstQuery?_snoc_some h.first i
  obtain ⟨r, hr, hrc, hri⟩ := h.run
  cases hmove with
  | join starts missing flies =>
    rw [Table.get?_congr _ hqc, h.flies] at flies
    cases flies
    simp only [Option.toList_none, List.append_nil]
    have hother : (q.component == c) = true → q.state ≠ .waiting n := by
      rw [starts]
      simp
    refine .during ⟨hfirst, h.missing, h.flies, h.begun, h.own, ⟨r, hr, hrc, hri⟩, h.installed,
      fun x hx hxc => ?_, h.waiter.setState hq hother _⟩
    rcases mem_setState hx with hold | rfl
    · exact h.states x hold hxc
    · exact .inr rfl
  | @drive _ r₁ r' idx waits run step =>
    cases h.number_eq hq hqc waits
    rw [hr] at run
    cases run
    obtain ⟨hcomponents, hrc', hri', -⟩ := Run.step_some step
    simp only [Option.toList_none, List.append_nil]
    refine .during ⟨hfirst, ?_, h.flies, h.begun, h.own, ⟨r', ?_, hrc'.trans hrc, hri'.trans hri⟩,
      h.installed, h.states, h.waiter⟩
    · show idx.components.get? c = none
      rw [hcomponents, h.missing]
    · show (l.flight.runs.insert n r').get? n = some r'
      rw [Table.get?_insert, if_pos BEq.rfl]
  | @finish _ r₁ idx waits run step =>
    cases h.number_eq hq hqc waits
    rw [hr] at run
    cases run
    have hc : (r.component == c) = true := hrc ▸ beq_of_firstQuery? h.first
    simp only [Option.toList_none, Option.toList_some, List.append_nil]
    have hmade : idx.components.get? c =
        some (Component.build r.component r.imports r.sheets) := by
      rw [Run.get?_of_step_none step, if_pos hc]
    refine .after (k := Component.build r.component r.imports r.sheets)
      ⟨hfirst, hmade, ⟨hrc, hri⟩, h.begun, h.own, ?_, ?_, fun x hx hxc => ?_, ?_⟩
    · show (l.flight.runs.erase n).get? n = none
      rw [Table.get?_erase, if_pos BEq.rfl]
    · rw [List.filter_append, h.installed]
      simp [Component.build, hc]
    · rcases mem_setState hx with hold | rfl
      · exact (h.states x hold hxc).imp_right .inl
      · refine .inr (.inr ?_)
        show QueryState.answered (idx.components.get? q.component) = _
        rw [Table.get?_congr _ hqc, hmade]
    · -- the entry is this run's
      show (if l.flight.inFlight.get? q.component = some n then
        l.flight.inFlight.erase q.component else l.flight.inFlight).get? c = none
      rw [Table.get?_congr _ hqc, if_pos h.flies, Table.get?_erase, if_pos hqc]
  | idle answered =>
    rcases h.states q (List.mem_of_getElem? hq) hqc with hs | hs <;> rw [hs] at answered <;>
      cases answered
  | answer starts found =>
    rw [Table.get?_congr _ hqc, h.missing] at found
    cases found
  | start starts missing free =>
    rw [Table.get?_congr _ hqc, h.flies] at free
    cases free
  | land waits ended =>
    cases h.number_eq hq hqc waits
    rw [hr] at ended
    cases ended

/-- When the run is over every query answers. -/
theorem After.move (h : After queries order l c q₀ n k) (hq : l.flight.queries[i]? = some q)
    (hqc : (q.component == c) = true) (hmove : Move disk l.flight i q f' b m) :
    After queries (order ++ [i]) ⟨f', l.begun ++ b.toList, l.installed ++ m.toList⟩ c q₀ n k := by
  have hfirst := firstQuery?_snoc_some h.first i
  cases hmove with
  | idle answered =>
    simp only [Option.toList_none, List.append_nil]
    exact ⟨hfirst, h.found, h.made, h.begun, h.own, h.ended, h.installed, h.states, h.clear⟩
  | answer starts found =>
    rw [Table.get?_congr _ hqc, h.found] at found
    cases found
    simp only [Option.toList_none, List.append_nil]
    refine ⟨hfirst, h.found, h.made, h.begun, h.own, h.ended, h.installed, fun x hx hxc => ?_,
      h.clear⟩
    rcases mem_setState hx with hold | rfl
    · exact h.states x hold hxc
    · exact .inr (.inr rfl)
  | @land n' waits ended =>
    cases h.number_eq hq hqc waits
    simp only [Option.toList_none, List.append_nil]
    refine ⟨hfirst, h.found, h.made, h.begun, h.own, h.ended, h.installed, fun x hx hxc => ?_, ?_⟩
    · rcases mem_setState hx with hold | rfl
      · exact h.states x hold hxc
      · refine .inr (.inr ?_)
        rw [Table.get?_congr _ hqc, h.found]
    · -- the entry is gone already
      show (if l.flight.inFlight.get? q.component = some n then
        l.flight.inFlight.erase q.component else l.flight.inFlight).get? c = none
      rw [if_neg (by rw [Table.get?_congr _ hqc, h.clear]; simp), h.clear]
  | join starts missing flies =>
    rw [Table.get?_congr _ hqc, h.found] at missing
    cases missing
  | start starts missing free =>
    rw [Table.get?_congr _ hqc, h.found] at missing
    cases missing
  | drive waits run step =>
    cases h.number_eq hq hqc waits
    rw [h.ended] at run
    cases run
  | finish waits run step =>
    cases h.number_eq hq hqc waits
    rw [h.ended] at run
    cases run

/-- A move that leaves all that concerns a component as it is. -/
structure Apart (queries : List (Path × List Path)) (c : Path) (order order' : List Nat)
    (l l' : Log) : Prop where
  first : firstQuery? queries order' c = firstQuery? queries order c
  components : l'.flight.index.components.get? c = l.flight.index.components.get? c
  inFlight : l'.flight.inFlight.get? c = l.flight.inFlight.get? c
  begun : l'.begun.filter (·.component == c) = l.begun.filter (·.component == c)
  own : ∀ (n : Nat) r, l.begun[n]? = some r → l'.begun[n]? = some r
  runs : ∀ (n : Nat) r, l.begun[n]? = some r → (r.component == c) = true →
    l'.flight.runs.get? n = l.flight.runs.get? n
  installed : l'.installed.filter (·.path == c) = l.installed.filter (·.path == c)
  states : ∀ q ∈ l'.flight.queries, (q.component == c) = true → q ∈ l.flight.queries
  waits : ∀ n, l.flight.Waits c n → l'.flight.Waits c n

theorem Course.apart {order' : List Nat} {l' : Log} (h : Course queries order l c)
    (hapart : Apart queries c order order' l l') : Course queries order' l' c := by
  cases h with
  | before h =>
    exact .before ⟨hapart.first.trans h.first, hapart.components.trans h.missing,
      hapart.inFlight.trans h.free, hapart.begun.trans h.begun,
      hapart.installed.trans h.installed, fun q hq hc => h.states q (hapart.states q hq hc) hc⟩
  | during h =>
    have hruns := hapart.runs _ _ h.own (beq_of_firstQuery? h.first)
    exact .during ⟨hapart.first.trans h.first, hapart.components.trans h.missing,
      hapart.inFlight.trans h.flies, hapart.begun.trans h.begun, hapart.own _ _ h.own,
      hruns ▸ h.run, hapart.installed.trans h.installed,
      fun q hq hc => h.states q (hapart.states q hq hc) hc, hapart.waits _ h.waiter⟩
  | after h =>
    have hruns := hapart.runs _ _ h.own (beq_of_firstQuery? h.first)
    refine .after ⟨hapart.first.trans h.first, hapart.components.trans h.found, h.made,
      hapart.begun.trans h.begun, hapart.own _ _ h.own, hruns.trans h.ended,
      hapart.installed.trans h.installed, fun q hq hc => h.states q (hapart.states q hq hc) hc,
      hapart.inFlight.trans h.clear⟩

/-- A query that waits does so for a run of its own component. -/
def Owns (l : Log) (q : Query) : Prop :=
  ∀ n, q.state = .waiting n →
    (∃ r, l.begun[n]? = some r ∧ (r.component == q.component) = true) ∧
    ∀ r, l.flight.runs.get? n = some r → (r.component == q.component) = true

theorem Course.owns (h : Course queries order l q.component)
    (hq : l.flight.queries[i]? = some q) : Owns l q := by
  intro n hwaits
  cases h with
  | before h =>
    rw [h.states q (List.mem_of_getElem? hq) BEq.rfl] at hwaits
    cases hwaits
  | during h =>
    cases h.number_eq hq BEq.rfl hwaits
    have hfirst := beq_of_firstQuery? h.first
    obtain ⟨r, hr, hrc, -⟩ := h.run
    refine ⟨⟨_, h.own, hfirst⟩, fun r' hr' => ?_⟩
    rw [hr] at hr'
    cases hr'
    rw [hrc]
    exact hfirst
  | after h =>
    cases h.number_eq hq BEq.rfl hwaits
    refine ⟨⟨_, h.own, beq_of_firstQuery? h.first⟩, fun r' hr' => ?_⟩
    rw [h.ended] at hr'
    cases hr'

/-- A query waits for no run of a component that is not its own. -/
theorem Owns.number_ne (h : Owns l q) (hqc : (q.component == c) = false) {n n' : Nat} {r : Run}
    (hr : l.begun[n]? = some r) (hrc : (r.component == c) = true) (hwaits : q.state = .waiting n') :
    (n' == n) = false := by
  obtain ⟨⟨r', hr', hr'q⟩, -⟩ := h n' hwaits
  refine beq_false_of_ne fun heq => ?_
  rw [heq, hr] at hr'
  cases hr'
  rw [BEq.congr_left hr'q, hqc] at hrc
  cases hrc

/-- A query that lands leaves the entries of other components in the table. -/
theorem inFlight_land (hqc : (q.component == c) = false) (f : Flight) (i n : Nat) :
    (f.land i q n).inFlight.get? c = f.inFlight.get? c := by
  show (if f.inFlight.get? q.component = some n then f.inFlight.erase q.component
    else f.inFlight).get? c = _
  split
  · rw [Table.get?_erase, hqc]
    rfl
  · rfl

theorem Move.apart (hmove : Move disk l.flight i q f' b m)
    (hcount : l.begun.length = l.flight.nextRun)
    (hasked : queries[i]? = some (q.component, q.imports)) (hq : l.flight.queries[i]? = some q)
    (howns : Owns l q) (hqc : (q.component == c) = false) :
    Apart queries c order (order ++ [i]) l
      ⟨f', l.begun ++ b.toList, l.installed ++ m.toList⟩ := by
  have hfirst : firstQuery? queries (order ++ [i]) c = firstQuery? queries order c := by
    rw [firstQuery?_snoc, hasked]
    simp [Option.filter, hqc]
  have hsame : ∀ {n : Nat}, (q.component == c) = true → q.state ≠ .waiting n := by
    intro n hc
    rw [hqc] at hc
    cases hc
  have hbefore : ∀ (n : Nat) r, l.begun[n]? = some r → n < l.flight.nextRun := by
    intro n r hr
    rw [← hcount]
    exact (List.getElem?_eq_some_iff.mp hr).1
  have hown : ∀ (n : Nat) r, l.begun[n]? = some r → (l.begun ++ b.toList)[n]? = some r := by
    intro n r hr
    rw [List.getElem?_append_left (by rw [hcount]; exact hbefore n r hr), hr]
  cases hmove with
  | idle answered =>
    exact ⟨hfirst, rfl, rfl, by simp, hown, fun _ _ _ _ => rfl, by simp, fun _ hx _ => hx,
      fun _ hw => hw⟩
  | answer starts found =>
    exact ⟨hfirst, rfl, rfl, by simp, hown, fun _ _ _ _ => rfl, by simp,
      fun _ hx hxc => mem_of_mem_setState hqc hx hxc, fun _ hw => hw.setState hq hsame _⟩
  | join starts missing flies =>
    exact ⟨hfirst, rfl, rfl, by simp, hown, fun _ _ _ _ => rfl, by simp,
      fun _ hx hxc => mem_of_mem_setState hqc hx hxc, fun _ hw => hw.setState hq hsame _⟩
  | start starts missing free =>
    refine ⟨hfirst, rfl, ?_, ?_, hown, fun n r hr _ => ?_, by simp,
      fun _ hx hxc => mem_of_mem_setState hqc hx hxc, fun _ hw => hw.setState hq hsame _⟩
    · show (l.flight.inFlight.insert q.component l.flight.nextRun).get? c = _
      rw [Table.get?_insert, hqc]
      rfl
    · simp [Run.start, hqc]
    · have hne : (l.flight.nextRun == n) = false := by
        have hlt := hbefore n r hr
        exact beq_false_of_ne (by omega)
      show (l.flight.runs.insert l.flight.nextRun _).get? n = _
      rw [Table.get?_insert, hne]
      rfl
  | @drive n' r r' idx waits run step =>
    refine ⟨hfirst, ?_, rfl, by simp, hown, fun n r hr hrc => ?_, by simp, fun _ hx _ => hx,
      fun _ hw => hw⟩
    · show idx.components.get? c = _
      rw [(Run.step_some step).1]
    · show (l.flight.runs.insert n' r').get? n = _
      rw [Table.get?_insert, howns.number_ne hqc hr hrc waits]
      rfl
  | @finish n' r idx waits run step =>
    have hrc : (r.component == c) = false :=
      (BEq.congr_left ((howns n' waits).2 r run)).trans hqc
    refine ⟨hfirst, ?_, inFlight_land hqc .., by simp, hown, fun n r hr hrc => ?_, ?_,
      fun _ hx hxc => mem_of_mem_setState hqc hx hxc, fun _ hw => hw.setState hq hsame _⟩
    · show idx.components.get? c = _
      rw [Run.get?_of_step_none step, hrc]
      rfl
    · show (l.flight.runs.erase n').get? n = _
      rw [Table.get?_erase, howns.number_ne hqc hr hrc waits]
      rfl
    · simp [Component.build, hrc]
  | @land n' waits ended =>
    exact ⟨hfirst, rfl, inFlight_land hqc .., by simp, hown, fun _ _ _ _ => rfl, by simp,
      fun _ hx hxc => mem_of_mem_setState hqc hx hxc, fun _ hw => hw.setState hq hsame _⟩

end Moves

/-! ## Whole flights -/

/-- The queries are the given ones, runs are numbered in the order they began,
every component that was not indexed at first is on its course, and a query has
its answer or has brought the end nearer each time it moved on. -/
structure Shares (idx : Index) (queries : List (Path × List Path)) (order : List Nat) (l : Log) :
    Prop where
  asked : l.flight.queries.map (fun q => (q.component, q.imports)) = queries
  count : l.begun.length = l.flight.nextRun
  numbered : l.flight.Numbered
  course : ∀ c, idx.components.get? c = none → Course queries order l c
  progress : ∀ i < queries.length,
    l.flight.Answered i ∨ l.flight.left + order.count i ≤ (begin idx queries).left

section Shares

variable {disk : Disk} {idx : Index} {queries : List (Path × List Path)} {order : List Nat}
  {l : Log} {i : Nat} {q : Query}

theorem shares_begin (idx : Index) (queries : List (Path × List Path)) :
    Shares idx queries [] ⟨begin idx queries, [], []⟩ where
  asked := by
    unfold begin
    rw [List.map_map]
    exact List.map_id queries
  count := rfl
  numbered := fun _ _ h => by cases h
  course := by
    intro c hc
    refine .before ⟨rfl, hc, rfl, rfl, rfl, fun q hq _ => ?_⟩
    obtain ⟨asked, -, rfl⟩ := List.mem_map.mp hq
    rfl
  progress := fun i _ => .inr (Nat.le_refl _)

theorem Shares.asked_eq (h : Shares idx queries order l) (hq : l.flight.queries[i]? = some q) :
    queries[i]? = some (q.component, q.imports) := by
  rw [← h.asked, List.getElem?_map, hq]
  rfl

theorem map_setState {f : Flight} (hq : f.queries[i]? = some q) (state : QueryState) :
    (f.setState i q state).queries.map (fun q => (q.component, q.imports)) =
      f.queries.map fun q => (q.component, q.imports) := by
  show (f.queries.set i { q with state }).map _ = _
  rw [List.map_set]
  apply List.ext_getElem?
  intro j
  rw [List.getElem?_set]
  split
  · rename_i hij
    subst hij
    rw [List.getElem?_map, hq, if_pos (by simpa using (List.getElem?_eq_some_iff.mp hq).1)]
    rfl
  · rfl

theorem Move.keeps {f' : Flight} {b : Option Run} {m : Option Component}
    (hmove : Move disk l.flight i q f' b m) (hq : l.flight.queries[i]? = some q)
    (hcount : l.begun.length = l.flight.nextRun) (hnumbered : l.flight.Numbered) :
    f'.queries.map (fun q => (q.component, q.imports)) =
        l.flight.queries.map (fun q => (q.component, q.imports)) ∧
      (l.begun ++ b.toList).length = f'.nextRun ∧ f'.Numbered := by
  have hsame : (l.begun ++ (none : Option Run).toList).length = l.flight.nextRun := by
    rw [Option.toList_none, List.append_nil, hcount]
  cases hmove with
  | idle answered => exact ⟨rfl, hsame, hnumbered⟩
  | answer starts found => exact ⟨map_setState hq _, hsame, hnumbered⟩
  | join starts missing flies => exact ⟨map_setState hq _, hsame, hnumbered⟩
  | land waits ended => exact ⟨map_setState hq _, hsame, hnumbered⟩
  | start starts missing free =>
    refine ⟨map_setState hq _, ?_, fun n r hget => ?_⟩
    · show _ = l.flight.nextRun + 1
      simp [hcount]
    · have hinsert : (l.flight.runs.insert l.flight.nextRun
          (Run.start q.component q.imports)).get? n = some r := hget
      show n < l.flight.nextRun + 1
      rw [Table.get?_insert] at hinsert
      split at hinsert
      · rename_i hn
        have hn := eq_of_beq hn
        omega
      · have hlt := hnumbered n r hinsert
        omega
  | @drive n' r₀ r' idx waits run step =>
    refine ⟨rfl, hsame, fun n r hget => ?_⟩
    rcases Table.of_get?_insert hget with ⟨hn, -⟩ | hbefore
    · rw [← eq_of_beq hn]
      exact hnumbered n' r₀ run
    · exact hnumbered n r hbefore
  | @finish n' r₀ idx waits run step =>
    exact ⟨map_setState hq _, hsame, fun n r hget => hnumbered n r (Table.of_get?_erase hget)⟩

theorem Shares.progress_next (h : Shares idx queries order l)
    (hq : l.flight.queries[i]? = some q) (disk : Disk) {j : Nat} (hj : j < queries.length) :
    (l.next disk i).flight.Answered j ∨
      (l.next disk i).flight.left + (order ++ [i]).count j ≤ (begin idx queries).left := by
  have hmove := step_move h.numbered disk hq
  rcases h.progress j hj with hanswered | hleft
  · exact .inl (hmove.answered hq hanswered)
  · rw [List.count_append]
    by_cases hij : i = j
    · subst hij
      cases hstate : q.state with
      | answered a => exact .inl (hmove.answered hq ⟨q, a, hq, hstate⟩)
      | _ =>
        have hlt : (l.flight.step disk i).left < l.flight.left :=
          hmove.left_lt hq h.numbered fun a => by simp [hstate]
        refine .inr ?_
        show (l.flight.step disk i).left + _ ≤ _
        simp only [List.count_singleton_self]
        omega
    · have hle : (l.flight.step disk i).left ≤ l.flight.left := hmove.left_le hq h.numbered
      refine .inr ?_
      show (l.flight.step disk i).left + _ ≤ _
      rw [List.count_cons_of_ne hij, List.count_nil]
      omega

theorem Shares.next (h : Shares idx queries order l)
    (hnew : ∀ q ∈ queries, idx.components.get? q.1 = none) (disk : Disk) (i : Nat) :
    Shares idx queries (order ++ [i]) (l.next disk i) := by
  cases hq : l.flight.queries[i]? with
  | none =>
    -- a number without a query changes nothing
    obtain ⟨hstep, hbegun, hinstalled⟩ := step_absent h.numbered disk hq
    have hlog : l.next disk i = l := by
      unfold Log.next
      rw [hstep, hbegun, hinstalled]
      simp
    have hasked : queries[i]? = none := by
      rw [← h.asked, List.getElem?_map, hq]
      rfl
    rw [hlog]
    refine ⟨h.asked, h.count, h.numbered, fun c hc => (h.course c hc).apart ?_, fun j hj => ?_⟩
    · refine ⟨?_, rfl, rfl, rfl, fun _ _ hr => hr, fun _ _ _ _ => rfl, rfl, fun _ hx _ => hx,
        fun _ hw => hw⟩
      rw [firstQuery?_snoc, hasked]
      simp
    · have hij : i ≠ j := by
        have hi := List.getElem?_eq_none_iff.mp hasked
        omega
      rw [List.count_append, List.count_cons_of_ne hij, List.count_nil]
      exact h.progress j hj
  | some q =>
    have hmove := step_move h.numbered disk hq
    have hasked := h.asked_eq hq
    have hunindexed := hnew _ (List.mem_of_getElem? hasked)
    obtain ⟨hqueries, hcount, hnumbered⟩ := hmove.keeps hq h.count h.numbered
    refine ⟨hqueries.trans h.asked, hcount, hnumbered, fun c hc => ?_,
      fun j hj => h.progress_next hq disk hj⟩
    cases hqc : (q.component == c) with
    | false =>
      have howns := (h.course q.component hunindexed).owns hq
      exact (h.course c hc).apart (hmove.apart h.count hasked hq howns hqc)
    | true =>
      cases h.course c hc with
      | before hbefore => exact .during (hbefore.move h.count hasked hq hqc hmove)
      | during hduring => exact hduring.move hq hqc hmove
      | after hafter => exact .after (hafter.move hq hqc hmove)

theorem shares_record (hnew : ∀ q ∈ queries, idx.components.get? q.1 = none) (disk : Disk)
    (order : List Nat) : Shares idx queries order (record disk (begin idx queries) order) := by
  have hsteps : ∀ (rest done : List Nat) (l : Log), Shares idx queries done l →
      Shares idx queries (done ++ rest) (rest.foldl (Log.next disk) l) := by
    intro rest
    induction rest with
    | nil =>
      intro done l h
      rw [List.append_nil]
      exact h
    | cons i rest ih =>
      intro done l h
      rw [List.append_cons]
      exact ih _ _ (h.next hnew disk i)
  exact hsteps order [] _ (shares_begin idx queries)

end Shares

/-- **First queries share one run.** Any number of queries for components that
are not indexed yet are moved on in any order, each as far as the next access to
the disk at a time. For each component there is one run, begun by the query that
comes first and with its imports. It installs one component, and that is the
answer of every query for it. A query that is moved on often enough has its
answer; and when all have, no entry is left in flight. -/
theorem queries_share_one_run (disk : Disk) (idx : Index) (queries : List (Path × List Path))
    (hnew : ∀ q ∈ queries, idx.components.get? q.1 = none) (order : List Nat) :
    let log := record disk (begin idx queries) order
    log.flight = (begin idx queries).steps disk order ∧
    log.flight.queries.map (fun q => (q.component, q.imports)) = queries ∧
    (∀ c, idx.components.get? c = none →
      log.begun.filter (·.component == c) =
        ((firstQuery? queries order c).map fun q => Run.start q.1 q.2).toList) ∧
    (∀ q ∈ log.flight.queries, ∀ a, q.state = .answered a →
      ∃ k first, a = some k ∧ firstQuery? queries order q.component = some first ∧
        k.path = first.1 ∧ k.imports = first.2 ∧
        log.installed.filter (·.path == q.component) = [k] ∧
        log.flight.index.components.get? q.component = some k) ∧
    (∀ i < queries.length, (begin idx queries).roundsNeeded ≤ order.count i →
      log.flight.Answered i) ∧
    ((∀ i < queries.length, log.flight.Answered i) →
      ∀ q ∈ queries, log.flight.inFlight.get? q.1 = none) := by
  intro log
  have h : Shares idx queries order log := shares_record hnew disk order
  refine ⟨record_flight disk _ order, h.asked, fun c hc => ?_, fun q hq a ha => ?_,
    fun i hi hcount => ?_, fun hall q hq => ?_⟩
  · cases h.course c hc with
    | before hbefore => rw [hbefore.first, hbefore.begun]; rfl
    | during hduring => rw [hduring.first, hduring.begun]; rfl
    | after hafter => rw [hafter.first, hafter.begun]; rfl
  · have hmem : (q.component, q.imports) ∈ queries := by
      rw [← h.asked]
      exact List.mem_map_of_mem hq
    cases h.course q.component (hnew _ hmem) with
    | before hbefore =>
      rw [hbefore.states q hq BEq.rfl] at ha
      cases ha
    | during hduring =>
      rcases hduring.states q hq BEq.rfl with hs | hs <;> rw [hs] at ha <;> cases ha
    | @after q₀ n k hafter =>
      rcases hafter.states q hq BEq.rfl with hs | hs | hs <;> rw [hs] at ha <;> cases ha
      exact ⟨k, q₀, rfl, hafter.first, hafter.made.1, hafter.made.2, hafter.installed,
        hafter.found⟩
  · rcases h.progress i hi with hanswered | hleft
    · exact hanswered
    · rw [← left_begin] at hcount
      refine answered_of_left_eq_zero (by omega) ?_
      rw [← List.length_map (f := fun q : Query => (q.component, q.imports)), h.asked]
      exact hi
  · have hnobody : ∀ n, ¬ log.flight.Waits q.1 n := by
      rintro n ⟨i, x, hx, -, hwaits⟩
      obtain ⟨x', a, hx', hanswered⟩ := hall i (by
        rw [← h.asked, List.length_map]
        exact (List.getElem?_eq_some_iff.mp hx).1)
      rw [hx] at hx'
      cases hx'
      rw [hwaits] at hanswered
      cases hanswered
    cases h.course q.1 (hnew q hq) with
    | before hbefore => exact hbefore.free
    | during hduring => exact absurd hduring.waiter (hnobody _)
    | after hafter => exact hafter.clear

namespace Sample

/-- Two stylesheets, a component in two spellings, and another component. -/
def a : Path := ⟨[0x2F, 0x61]⟩
def b : Path := ⟨[0x2F, 0x62]⟩
def c : Path := ⟨[0x2F, 0x63]⟩
def c' : Path := ⟨[0x2F, 0x2F, 0x63]⟩
def d : Path := ⟨[0x2F, 0x64]⟩

def disk : Disk := Disk.empty.write a (.text ".x{}".toList) 1

/-- The second query begins the run that the first one joins; the third one's
run is under way at the same time. -/
def queries : List (Path × List Path) := [(c, [a]), (c', [b]), (d, [a, b])]
def order : List Nat := [1, 1, 0, 2] ++ (List.replicate 32 [2, 0, 1]).flatten

/-- The flight after all queries were moved on in this order. -/
def flight : Flight := (begin Index.empty queries).steps disk order

end Sample

/-- Queries for two spellings of a component answer with one component, of the
imports of the query that came first. -/
theorem queries_share_one_run_joined :
    ∃ q q' k, Sample.flight.queries[0]? = some q ∧ Sample.flight.queries[1]? = some q' ∧
      q.state = .answered (some k) ∧ q'.state = .answered (some k) ∧ k.imports = [Sample.b] ∧
      Sample.flight.inFlight.get? Sample.c = none ∧
      Sample.flight.inFlight.get? Sample.d = none := by
  obtain ⟨hflight, hasked, -, hanswers, hcount, hclear⟩ := queries_share_one_run Sample.disk
    Index.empty Sample.queries (fun _ _ => rfl) Sample.order
  have hall : ∀ i < Sample.queries.length,
      (record Sample.disk (begin Index.empty Sample.queries) Sample.order).flight.Answered i :=
    fun i hi => hcount i hi (by
      have hbound : ∀ i < 3, (begin Index.empty Sample.queries).roundsNeeded ≤
          Sample.order.count i := by decide
      exact hbound i hi)
  rw [hflight] at hasked hanswers hclear hall
  obtain ⟨q, answer, hq, hanswer⟩ := hall 0 (by decide)
  obtain ⟨q', answer', hq', hanswer'⟩ := hall 1 (by decide)
  have hc : q.component = Sample.c := by
    have hget := congrArg (·[0]?) hasked
    simp only [List.getElem?_map, hq] at hget
    exact congrArg Prod.fst (Option.some.inj hget)
  have hc' : q'.component = Sample.c' := by
    have hget := congrArg (·[1]?) hasked
    simp only [List.getElem?_map, hq'] at hget
    exact congrArg Prod.fst (Option.some.inj hget)
  obtain ⟨k, first, rfl, hfirst, -, himports, -, hk⟩ :=
    hanswers q (List.mem_of_getElem? hq) answer hanswer
  obtain ⟨k', -, rfl, -, -, -, -, hk'⟩ :=
    hanswers q' (List.mem_of_getElem? hq') answer' hanswer'
  have hsame : k' = k := by
    have hspelling : (q'.component == q.component) = true := by
      rw [hc, hc']
      decide
    rw [Table.get?_congr _ hspelling, hk] at hk'
    exact (Option.some.inj hk').symm
  have hb : first = (Sample.c', [Sample.b]) := by
    rw [hc] at hfirst
    exact (Option.some.inj hfirst).symm
  rw [hb] at himports
  exact ⟨q, q', k, hq, hq', hanswer, hsame ▸ hanswer', himports,
    hclear hall (Sample.c, [Sample.a]) (by simp [Sample.queries]),
    hclear hall (Sample.d, [Sample.a, Sample.b]) (by simp [Sample.queries])⟩

end Flight

end ClassLens
