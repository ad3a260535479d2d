import ClassLens.Document.Attribute
/-
  Values — what the closed values of a line are, and that the scan finds them

  `ClosedValues` says which stretches of a line are closed values of an
  attribute, without scanning: a value belongs to the first opening of what is
  left of the line, runs to the next quote of its kind, and the line goes on
  behind that quote. An opening without a closing quote ends the search.

  What is proved:
    1. `openingQuote?_eq_some` — an opening is recognised, and nothing else is;
    2. `valuesFrom_skip`, `valuesFrom_unopened` — the scan passes over what
       belongs to a value and over what opens none;
    3. `ClosedValues.scan` — the scan finds exactly the closed values;
    4. `ClosedValues.parts` — a closed value stands between two quotes;
    5. `exists_closedValues` — every line has them.
-/

namespace ClassLens

/-- The text from an attribute's name through the quote `q` that opens its value. -/
def IsOpening (attr : Text) (q : Char) (opening : Text) : Prop :=
  (q = '"' ∨ q = '\'') ∧ ∃ blanks blanks' : Text,
    (∀ c ∈ blanks, Text.isBlank c = true) ∧ (∀ c ∈ blanks', Text.isBlank c = true) ∧
      opening = attr ++ (blanks ++ '=' :: (blanks' ++ [q]))

/-- Between `done` and `rest` lies a word boundary, and `rest` is an opening and
what stands behind it. -/
structure OpensAt (attr done rest : Text) (q : Char) (opening behind : Text) : Prop where
  boundary : Text.isBoundary done.getLast? rest.head? = true
  isOpening : IsOpening attr q opening
  parts : rest = opening ++ behind

/-- Behind `done` nothing opens in `skipped`, which `rest` follows. -/
def Unopened (attr done skipped rest : Text) : Prop :=
  ∀ a b, skipped = a ++ b → b ≠ [] → ∀ q opening behind,
    ¬ OpensAt attr (done ++ a) (b ++ rest) q opening behind

/-- The closed values of a line of which `done` is done with and the second text
is left, each with all that stands before it on the line. -/
inductive ClosedValues (attr : Text) : Text → Text → List (Text × Text) → Prop where
  | none {done rest : Text} (unopened : Unopened attr done rest []) : ClosedValues attr done rest []
  | unclosed {done skipped rest opening value : Text} {q : Char}
      (unopened : Unopened attr done skipped rest)
      (opens : OpensAt attr (done ++ skipped) rest q opening value) (hq : q ∉ value) :
      ClosedValues attr done (skipped ++ rest) []
  | closed {done skipped rest opening value tail : Text} {q : Char} {values : List (Text × Text)}
      (unopened : Unopened attr done skipped rest)
      (opens : OpensAt attr (done ++ skipped) rest q opening (value ++ q :: tail)) (hq : q ∉ value)
      (later : ClosedValues attr (done ++ (skipped ++ (opening ++ (value ++ [q])))) tail values) :
      ClosedValues attr done (skipped ++ rest) ((done ++ (skipped ++ opening), value) :: values)

variable {attr : Text}

/-! ## Openings -/

theorem dropWhile_isBlank {blanks rest : Text} (h : ∀ c ∈ blanks, Text.isBlank c = true)
    (hrest : ∀ c ∈ rest.head?, Text.isBlank c = false) :
    Text.trimStart (blanks ++ rest) = rest := by
  unfold Text.trimStart
  rw [List.dropWhile_append_of_pos h]
  cases rest with
  | nil => rfl
  | cons c rest => simp [hrest c rfl]

theorem openingQuote?_eq_some {cs behind : Text} {q : Char} :
    openingQuote? attr cs = some (q, behind) ↔
      ∃ opening, IsOpening attr q opening ∧ cs = opening ++ behind := by
  constructor
  · intro h
    unfold openingQuote? at h
    split at h
    · rename_i hstart
      obtain ⟨rest, rfl⟩ := List.isPrefixOf_iff_prefix.mp hstart
      rw [List.drop_left] at h
      obtain ⟨blanks, hblanks, hrest, -⟩ := Text.trimStart_parts rest
      split at h
      · rename_i rest' htrim
        obtain ⟨blanks', hblanks', hrest', -⟩ := Text.trimStart_parts rest'
        split at h
        · cases h
        · rename_i q' value htrim'
          split at h
          · rename_i hquote
            cases h
            refine ⟨_, ⟨hquote, blanks, blanks', hblanks, hblanks', rfl⟩, ?_⟩
            rw [hrest, htrim, hrest', htrim']
            simp
          · cases h
      · cases h
    · cases h
  · rintro ⟨opening, ⟨hquote, blanks, blanks', hblanks, hblanks', rfl⟩, rfl⟩
    -- neither the equals sign nor a quote is blank, so trimming stops there
    have hq : Text.isBlank q = false := by rcases hquote with rfl | rfl <;> rfl
    have heq : Text.isBlank '=' = false := rfl
    have hstart : Text.startsWith attr
        (attr ++ (blanks ++ '=' :: (blanks' ++ [q])) ++ behind) = true := by
      unfold Text.startsWith
      rw [List.isPrefixOf_iff_prefix, List.append_assoc]
      exact List.prefix_append _ _
    have hdrop : (attr ++ (blanks ++ '=' :: (blanks' ++ [q])) ++ behind).drop attr.length =
        blanks ++ '=' :: (blanks' ++ q :: behind) := by
      rw [List.append_assoc, List.drop_left]
      simp
    have htrim : Text.trimStart (blanks ++ '=' :: (blanks' ++ q :: behind)) =
        '=' :: (blanks' ++ q :: behind) := dropWhile_isBlank hblanks (by simp [heq])
    have htrim' : Text.trimStart (blanks' ++ q :: behind) = q :: behind :=
      dropWhile_isBlank hblanks' (by simp [hq])
    unfold openingQuote?
    rw [if_pos hstart, hdrop, htrim]
    simp only [htrim', hquote, if_true]

theorem IsOpening.ne_nil {q : Char} {opening : Text} (h : IsOpening attr q opening) :
    opening ≠ [] := by
  obtain ⟨-, blanks, blanks', -, -, rfl⟩ := h
  simp

/-! ## Passing over text -/

theorem valuesFrom_skip (attr : Text) (done a b : Text) :
    valuesFrom attr done.getLast? (Text.bytes done) a.length (a ++ b) =
      valuesFrom attr (done ++ a).getLast? (Text.bytes (done ++ a)) 0 b := by
  induction a generalizing done with
  | nil => simp
  | cons c a ih =>
    have hnext := ih (done ++ [c])
    rw [List.append_assoc, List.singleton_append] at hnext
    rw [← hnext]
    simp [valuesFrom, Text.bytes_append]

theorem Unopened.of_cons {c : Char} {done skipped rest : Text}
    (h : Unopened attr done (c :: skipped) rest) : Unopened attr (done ++ [c]) skipped rest := by
  intro a b hab hb q opening behind hopens
  refine h (c :: a) b (by rw [hab]; rfl) hb q opening behind ?_
  rwa [List.append_assoc] at hopens

theorem valuesFrom_unopened {done skipped rest : Text} (h : Unopened attr done skipped rest) :
    valuesFrom attr done.getLast? (Text.bytes done) 0 (skipped ++ rest) =
      valuesFrom attr (done ++ skipped).getLast? (Text.bytes (done ++ skipped)) 0 rest := by
  induction skipped generalizing done with
  | nil => simp
  | cons c skipped ih =>
    have hnext := ih h.of_cons
    rw [List.append_assoc, List.singleton_append] at hnext
    rw [← hnext, List.cons_append]
    -- at this character there is no boundary, or no opening
    have hhere : Text.isBoundary done.getLast? (some c) = true →
        openingQuote? attr (c :: (skipped ++ rest)) = none := by
      intro hboundary
      rw [Option.eq_none_iff_forall_ne_some]
      rintro ⟨q, behind⟩ hfound
      obtain ⟨opening, hopening, hparts⟩ := openingQuote?_eq_some.mp hfound
      exact h [] (c :: skipped) rfl (by simp) q opening behind
        ⟨by simpa using hboundary, hopening, hparts⟩
    rw [valuesFrom]
    by_cases hboundary : Text.isBoundary done.getLast? (some c) = true
    · simp [hboundary, hhere hboundary, Text.bytes_append]
    · simp [hboundary, Text.bytes_append]

/-! ## The scan and the closed values -/

theorem takeWhile_ne_append {q : Char} {value : Text} (h : q ∉ value) (tail : Text) :
    (value ++ tail).takeWhile (· ≠ q) = value ++ tail.takeWhile (· ≠ q) := by
  apply List.takeWhile_append_of_pos
  intro c hc
  exact decide_eq_true fun heq => h (heq ▸ hc)

theorem OpensAt.valuesFrom_unclosed {done rest opening value : Text} {q : Char}
    (h : OpensAt attr done rest q opening value) (hq : q ∉ value) :
    valuesFrom attr done.getLast? (Text.bytes done) 0 rest =
      [⟨Text.bytes done + Text.bytes opening, value, false⟩] := by
  obtain ⟨hboundary, hopening, rfl⟩ := h
  have hfound : openingQuote? attr (opening ++ value) = some (q, value) :=
    openingQuote?_eq_some.mpr ⟨opening, hopening, rfl⟩
  have htake : value.takeWhile (· ≠ q) = value := by simpa using takeWhile_ne_append hq []
  obtain ⟨c, cs, rfl⟩ := List.exists_cons_of_ne_nil hopening.ne_nil
  rw [List.cons_append] at hfound ⊢
  rw [List.cons_append, List.head?_cons] at hboundary
  simp only [valuesFrom, hboundary, if_true, hfound, htake, List.drop_length]
  congr 2
  simp only [Text.bytes_cons, Text.bytes_append]
  omega

/-- Behind the closing quote of a value the scan goes on. -/
theorem OpensAt.valuesFrom_closed {done rest opening value tail : Text} {q : Char}
    (h : OpensAt attr done rest q opening (value ++ q :: tail)) (hq : q ∉ value) :
    valuesFrom attr done.getLast? (Text.bytes done) 0 rest =
      ⟨Text.bytes done + Text.bytes opening, value, true⟩ ::
        valuesFrom attr (done ++ (opening ++ (value ++ [q]))).getLast?
          (Text.bytes (done ++ (opening ++ (value ++ [q])))) 0 tail := by
  obtain ⟨hboundary, hopening, rfl⟩ := h
  have hfound : openingQuote? attr (opening ++ (value ++ q :: tail)) =
      some (q, value ++ q :: tail) := openingQuote?_eq_some.mpr ⟨opening, hopening, rfl⟩
  have htake : (value ++ q :: tail).takeWhile (· ≠ q) = value := by
    rw [takeWhile_ne_append hq]
    simp
  obtain ⟨c, cs, rfl⟩ := List.exists_cons_of_ne_nil hopening.ne_nil
  -- what the scan passes over first is the rest of the opening and the value with its quote
  have hpassed : cs ++ (value ++ q :: tail) = (cs ++ (value ++ [q])) ++ tail := by simp
  have hlength : (cs ++ (value ++ q :: tail)).length - tail.length =
      (cs ++ (value ++ [q])).length := by
    simp only [List.length_append, List.length_cons, List.length_nil]
    omega
  have hskip := valuesFrom_skip attr (done ++ [c]) (cs ++ (value ++ [q])) tail
  rw [← hpassed, ← hlength, List.append_assoc, List.singleton_append] at hskip
  rw [List.cons_append] at hfound ⊢
  rw [List.cons_append, List.head?_cons] at hboundary
  simp only [valuesFrom, hboundary, if_true, hfound, htake, List.drop_left, List.cons_ne_nil,
    if_false, List.length_cons, Nat.add_sub_cancel]
  rw [List.cons_append, ← hskip]
  congr 2
  · simp only [Text.bytes_cons, Text.bytes_append]
    omega
  · simp
  · simp

/-- The scan finds the closed values, each at its place. -/
theorem ClosedValues.scan {done rest : Text} {values : List (Text × Text)}
    (h : ClosedValues attr done rest values) :
    (valuesFrom attr done.getLast? (Text.bytes done) 0 rest).filter (·.closed) =
      values.map fun v => ⟨Text.bytes v.1, v.2, true⟩ := by
  induction h with
  | @none done rest unopened =>
    have hscan := valuesFrom_unopened unopened
    rw [List.append_nil] at hscan
    rw [hscan]
    rfl
  | unclosed unopened opens hq =>
    rw [valuesFrom_unopened unopened, opens.valuesFrom_unclosed hq]
    rfl
  | closed unopened opens hq later ih =>
    rw [valuesFrom_unopened unopened, opens.valuesFrom_closed hq, List.append_assoc,
      List.filter_cons_of_pos rfl, ih, List.map_cons]
    simp [Text.bytes_append, Nat.add_assoc]

theorem ClosedValues.parts {done rest : Text} {values : List (Text × Text)}
    (h : ClosedValues attr done rest values) {before value : Text}
    (hmem : (before, value) ∈ values) :
    ∃ q init tail, (q = '"' ∨ q = '\'') ∧ before = init ++ [q] ∧
      done ++ rest = before ++ (value ++ q :: tail) := by
  induction h with
  | none unopened => cases hmem
  | unclosed unopened opens hq => cases hmem
  | @closed done skipped rest opening value' tail q values unopened opens hq later ih =>
    rcases List.mem_cons.mp hmem with heq | hmem
    · obtain ⟨rfl, rfl⟩ := Prod.mk.inj heq
      obtain ⟨hquote, blanks, blanks', -, -, hopening⟩ := opens.isOpening
      refine ⟨q, done ++ (skipped ++ (attr ++ (blanks ++ '=' :: blanks'))), tail, hquote, ?_, ?_⟩
      · rw [hopening]
        simp
      · rw [opens.parts]
        simp
    · obtain ⟨q', init, tail', hquote, hbefore, hparts⟩ := ih hmem
      refine ⟨q', init, tail', hquote, hbefore, ?_⟩
      rw [← hparts, opens.parts]
      simp

/-! ## Every line has closed values -/

theorem unopened_nil (attr done rest : Text) : Unopened attr done [] rest := by
  intro a b hab hb
  exact absurd (List.append_eq_nil_iff.mp hab.symm).2 hb

theorem Unopened.cons {c : Char} {done skipped rest : Text}
    (hhere : ∀ q opening behind, ¬ OpensAt attr done (c :: (skipped ++ rest)) q opening behind)
    (h : Unopened attr (done ++ [c]) skipped rest) : Unopened attr done (c :: skipped) rest := by
  intro a b hab hb q opening behind hopens
  cases a with
  | nil =>
    rw [List.nil_append] at hab
    rw [List.append_nil, ← hab] at hopens
    exact hhere q opening behind hopens
  | cons d a =>
    obtain ⟨hcd, hskipped⟩ := List.cons.inj hab
    subst hcd
    refine h a b hskipped hb q opening behind ?_
    rwa [List.append_assoc]

/-- Nothing opens in a text, or there is a first opening. -/
theorem unopened_or_opensAt (attr done rest : Text) :
    Unopened attr done rest [] ∨ ∃ skipped rest' q opening behind, rest = skipped ++ rest' ∧
      Unopened attr done skipped rest' ∧ OpensAt attr (done ++ skipped) rest' q opening behind := by
  induction rest generalizing done with
  | nil => exact .inl (unopened_nil attr done [])
  | cons c rest ih =>
    by_cases hhere : ∃ q opening behind, OpensAt attr done (c :: rest) q opening behind
    · obtain ⟨q, opening, behind, hopens⟩ := hhere
      refine .inr ⟨[], c :: rest, q, opening, behind, rfl, unopened_nil attr done _, ?_⟩
      rwa [List.append_nil]
    · simp only [not_exists] at hhere
      rcases ih (done ++ [c]) with hnone | ⟨skipped, rest', q, opening, behind, rfl, hfirst, hopens⟩
      · refine .inl (Unopened.cons ?_ hnone)
        rwa [List.append_nil]
      · refine .inr ⟨c :: skipped, rest', q, opening, behind, rfl, hfirst.cons hhere, ?_⟩
        rwa [List.append_assoc] at hopens

theorem exists_closedValues (attr done rest : Text) :
    ∃ values, ClosedValues attr done rest values := by
  -- the line left behind a closing quote is shorter
  induction hlength : rest.length using Nat.strongRecOn generalizing done rest with
  | ind n ih =>
    rcases unopened_or_opensAt attr done rest with
      hnone | ⟨skipped, rest', q, opening, behind, rfl, hfirst, hopens⟩
    · exact ⟨[], .none hnone⟩
    · by_cases hq : q ∈ behind
      · obtain ⟨value, tail, rfl, hvalue⟩ := List.eq_append_cons_of_mem hq
        have hshorter : tail.length < n := by
          rw [← hlength, hopens.parts]
          simp only [List.length_append, List.length_cons]
          omega
        obtain ⟨values, hlater⟩ :=
          ih tail.length hshorter (done ++ (skipped ++ (opening ++ (value ++ [q])))) tail rfl
        exact ⟨_, .closed hfirst hopens hvalue hlater⟩
      · exact ⟨[], .unclosed hfirst hopens hq⟩

theorem attributeValues_eq {line : Text} {values : List (Text × Text)}
    (h : ClosedValues attr [] line values) :
    (attributeValues attr line).filter (·.closed) =
      values.map fun v => ⟨Text.bytes v.1, v.2, true⟩ := h.scan

end ClassLens
