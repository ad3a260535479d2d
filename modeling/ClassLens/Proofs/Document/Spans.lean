import ClassLens.Proofs.Document.Values
import ClassLens.Proofs.Text.Split
/-
  Spans — all values on a line, finished or not

  The scan takes the first opening of what is left of the line, lets its value
  run to the next quote of its kind, and goes on behind that quote; a value
  without such a quote runs to the end of the line and ends the scan. `Spans`
  says this without scanning, and everything about the values follows from it:
  where they stand, that they stand apart, and that no opening outside of them
  is passed over.

  What is proved:
    1. `spans_valuesFrom` — what the scan finds;
    2. `Spans.standsIn` — each value stands between its quotes;
    3. `Spans.apart`, `Spans.last_of_unclosed` — values stand apart, and an
       unfinished one is the last;
    4. `Spans.opened` — every opening outside the values opens one;
    5. `values_apart_and_complete` — all of it, and that a column touches at
       most one value, which is the one that is found for it.
-/

namespace ClassLens

/-- The values of a line of which `done` is done with and the second text is left. -/
inductive Spans (attr : Text) : Text → Text → List AttributeValue → Prop where
  | none {done rest : Text} (unopened : Unopened attr done rest []) : Spans attr done rest []
  | unclosed {done skipped rest opening value : Text} {q : Char}
      (unopened : Unopened attr done skipped rest)
      (opens : OpensAt attr (done ++ skipped) rest q opening value) (hq : q ∉ value) :
      Spans attr done (skipped ++ rest)
        [⟨Text.bytes (done ++ (skipped ++ opening)), value, false⟩]
  | closed {done skipped rest opening value tail : Text} {q : Char} {values : List AttributeValue}
      (unopened : Unopened attr done skipped rest)
      (opens : OpensAt attr (done ++ skipped) rest q opening (value ++ q :: tail)) (hq : q ∉ value)
      (later : Spans attr (done ++ (skipped ++ (opening ++ (value ++ [q])))) tail values) :
      Spans attr done (skipped ++ rest)
        (⟨Text.bytes (done ++ (skipped ++ opening)), value, true⟩ :: values)

/-- A value stands in a line behind its opening, which ends in the quote `q`; it
holds no such quote and goes to the next one, or to the end of the line. -/
structure AttributeValue.StandsIn (attr line : Text) (v : AttributeValue) (q : Char)
    (before behind : Text) : Prop where
  line_eq : line = before ++ (v.text ++ behind)
  start_eq : v.start = Text.bytes before
  isQuote : q = '"' ∨ q = '\''
  quote_before : before.getLast? = some q
  opened : ∃ done opening, before = done ++ opening ∧
    OpensAt attr done (opening ++ (v.text ++ behind)) q opening (v.text ++ behind)
  unquoted : q ∉ v.text
  closed_iff : v.closed = true ↔ behind.head? = some q
  unclosed : v.closed = false → behind = []

variable {attr : Text}

/-! ## What the scan finds -/

theorem spans_valuesFrom (attr done rest : Text) :
    Spans attr done rest (valuesFrom attr done.getLast? (Text.bytes done) 0 rest) := by
  -- the line left behind a closing quote is shorter
  induction hlength : rest.length using Nat.strongRecOn generalizing done rest with
  | ind n ih =>
    rcases unopened_or_opensAt attr done rest with
      hnone | ⟨skipped, rest', q, opening, behind, rfl, hfirst, hopens⟩
    · have hscan := valuesFrom_unopened hnone
      rw [List.append_nil] at hscan
      rw [hscan]
      exact .none hnone
    · rw [valuesFrom_unopened hfirst]
      by_cases hq : q ∈ behind
      · obtain ⟨value, tail, rfl, hvalue⟩ := List.eq_append_cons_of_mem hq
        have hshorter : tail.length < n := by
          rw [← hlength, hopens.parts]
          simp only [List.length_append, List.length_cons]
          omega
        have hlater :=
          ih tail.length hshorter (done ++ (skipped ++ (opening ++ (value ++ [q])))) tail rfl
        rw [hopens.valuesFrom_closed hvalue, List.append_assoc, ← Text.bytes_append,
          List.append_assoc]
        exact .closed hfirst hopens hvalue hlater
      · rw [hopens.valuesFrom_unclosed hq, ← Text.bytes_append, List.append_assoc]
        exact .unclosed hfirst hopens hq

theorem spans_attributeValues (attr line : Text) : Spans attr [] line (attributeValues attr line) :=
  spans_valuesFrom attr [] line

/-! ## Where the values stand -/

theorem IsOpening.getLast?_eq {q : Char} {opening : Text} (h : IsOpening attr q opening) :
    opening.getLast? = some q := by
  obtain ⟨-, blanks, blanks', -, -, rfl⟩ := h
  simp [List.getLast?_append, List.getLast?_cons]

theorem IsOpening.two_le_bytes {q : Char} {opening : Text} (h : IsOpening attr q opening) :
    2 ≤ Text.bytes opening := by
  obtain ⟨-, blanks, blanks', -, -, rfl⟩ := h
  have hequals := Char.utf8Size_pos '='
  have hquote := Char.utf8Size_pos q
  simp only [Text.bytes_append, Text.bytes_cons]
  omega

theorem IsOpening.bytes_quote {q : Char} {opening : Text} (h : IsOpening attr q opening) :
    Text.bytes [q] = 1 := by
  rcases h.1 with rfl | rfl <;> rfl

theorem OpensAt.standsIn {done rest opening behind : Text} {q : Char}
    (h : OpensAt attr done rest q opening behind) {v : AttributeValue} {rest' : Text}
    (hbehind : behind = v.text ++ rest') (hstart : v.start = Text.bytes (done ++ opening))
    (hq : q ∉ v.text) (hclosed : v.closed = true ↔ rest'.head? = some q)
    (hunclosed : v.closed = false → rest' = []) :
    v.StandsIn attr (done ++ rest) q (done ++ opening) rest' where
  line_eq := by rw [h.parts, hbehind, List.append_assoc]
  start_eq := hstart
  isQuote := h.isOpening.1
  quote_before := by rw [List.getLast?_append, h.isOpening.getLast?_eq]; rfl
  opened := ⟨done, opening, rfl, by rw [← hbehind, ← h.parts]; exact h⟩
  unquoted := hq
  closed_iff := hclosed
  unclosed := hunclosed

theorem Spans.standsIn {done rest : Text} {values : List AttributeValue}
    (h : Spans attr done rest values) {v : AttributeValue} (hv : v ∈ values) :
    ∃ q before behind, v.StandsIn attr (done ++ rest) q before behind := by
  induction h with
  | none unopened => cases hv
  | @unclosed done skipped rest opening value q unopened opens hq =>
    obtain rfl := List.mem_singleton.mp hv
    refine ⟨q, (done ++ skipped) ++ opening, [], ?_⟩
    rw [← List.append_assoc done]
    exact opens.standsIn (by simp) (by rw [List.append_assoc]) hq (by simp) (fun _ => rfl)
  | @closed done skipped rest opening value tail q values unopened opens hq later ih =>
    rcases List.mem_cons.mp hv with rfl | hv
    · refine ⟨q, (done ++ skipped) ++ opening, q :: tail, ?_⟩
      rw [← List.append_assoc done]
      exact opens.standsIn rfl (by rw [List.append_assoc]) hq (by simp)
        (fun hfalse => by cases hfalse)
    · obtain ⟨q', before, behind, hstands⟩ := ih hv
      refine ⟨q', before, behind, ?_⟩
      have hline : done ++ (skipped ++ (opening ++ (value ++ [q]))) ++ tail =
          done ++ (skipped ++ rest) := by
        rw [opens.parts]
        simp
      rwa [hline] at hstands

theorem standsIn_of_mem {line : Text} {v : AttributeValue} (h : v ∈ attributeValues attr line) :
    ∃ q before behind, v.StandsIn attr line q before behind :=
  (spans_attributeValues attr line).standsIn h

theorem AttributeValue.StandsIn.stop_eq {line : Text} {v : AttributeValue} {q : Char}
    {before behind : Text} (h : v.StandsIn attr line q before behind) :
    v.stop = Text.bytes (before ++ v.text) := by
  rw [AttributeValue.stop, h.start_eq, Text.bytes_append]

theorem AttributeValue.StandsIn.slice?_eq {line : Text} {v : AttributeValue} {q : Char}
    {before behind : Text} (h : v.StandsIn attr line q before behind) :
    Text.slice? v.start v.stop line = some v.text := by
  rw [AttributeValue.stop, h.start_eq, h.line_eq]
  exact Text.slice?_append before v.text behind

/-! ## Apart from one another -/

theorem Spans.lt_start {done rest : Text} {values : List AttributeValue}
    (h : Spans attr done rest values) {v : AttributeValue} (hv : v ∈ values) :
    Text.bytes done + 1 < v.start := by
  have hopening : ∀ {done skipped rest opening behind : Text} {q : Char},
      OpensAt attr (done ++ skipped) rest q opening behind →
        Text.bytes done + 1 < Text.bytes (done ++ (skipped ++ opening)) := by
    intro done skipped rest opening behind q opens
    have htwo := opens.isOpening.two_le_bytes
    simp only [Text.bytes_append]
    omega
  induction h with
  | none unopened => cases hv
  | unclosed unopened opens hq =>
    obtain rfl := List.mem_singleton.mp hv
    exact hopening opens
  | closed unopened opens hq later ih =>
    rcases List.mem_cons.mp hv with rfl | hv
    · exact hopening opens
    · have hlater := ih hv
      simp only [Text.bytes_append] at hlater
      omega

theorem Spans.apart {done rest : Text} {values : List AttributeValue}
    (h : Spans attr done rest values) :
    values.Pairwise fun v w => v.stop + 1 < w.start := by
  induction h with
  | none unopened => exact .nil
  | unclosed unopened opens hq => exact List.pairwise_singleton _ _
  | @closed done skipped rest opening value tail q values unopened opens hq later ih =>
    refine List.pairwise_cons.mpr ⟨fun w hw => ?_, ih⟩
    have hlater := later.lt_start hw
    simp only [Text.bytes_append, opens.isOpening.bytes_quote] at hlater
    unfold AttributeValue.stop
    simp only [Text.bytes_append]
    omega

theorem Spans.last_of_unclosed {done rest : Text} {values : List AttributeValue}
    (h : Spans attr done rest values) {v : AttributeValue} (hv : v ∈ values)
    (hclosed : v.closed = false) : values.getLast? = some v := by
  induction h with
  | none unopened => cases hv
  | unclosed unopened opens hq =>
    obtain rfl := List.mem_singleton.mp hv
    rfl
  | closed unopened opens hq later ih =>
    rcases List.mem_cons.mp hv with rfl | hv
    · cases hclosed
    · rw [List.getLast?_cons, ih hv]
      rfl

theorem eq_or_apart {values : List AttributeValue}
    (h : values.Pairwise fun v w => v.stop + 1 < w.start) {v w : AttributeValue} (hv : v ∈ values)
    (hw : w ∈ values) : v = w ∨ v.stop + 1 < w.start ∨ w.stop + 1 < v.start := by
  induction h with
  | nil => cases hv
  | cons hfirst _ ih =>
    rcases List.mem_cons.mp hv with rfl | hv' <;> rcases List.mem_cons.mp hw with rfl | hw'
    · exact .inl rfl
    · exact .inr (.inl (hfirst w hw'))
    · exact .inr (.inr (hfirst v hv'))
    · exact ih hv' hw'

theorem touches_unique {values : List AttributeValue}
    (h : values.Pairwise fun v w => v.stop + 1 < w.start) {v w : AttributeValue} (hv : v ∈ values)
    (hw : w ∈ values) {column : Nat} (hvtouches : v.touches column = true)
    (hwtouches : w.touches column = true) : v = w := by
  simp only [AttributeValue.touches, Bool.and_eq_true, decide_eq_true_eq] at hvtouches hwtouches
  rcases eq_or_apart h hv hw with heq | hbefore | hbehind
  · exact heq
  · omega
  · omega

theorem attributeValueAt?_eq_some {line : Text} {column : Nat} {v : AttributeValue} :
    attributeValueAt? attr line column = some v ↔
      v ∈ attributeValues attr line ∧ v.start ≤ column ∧ column ≤ v.stop := by
  have htouches : v.touches column = true ↔ v.start ≤ column ∧ column ≤ v.stop := by
    simp [AttributeValue.touches]
  have hfound : ∀ {w}, attributeValueAt? attr line column = some w →
      w ∈ attributeValues attr line ∧ w.touches column = true := by
    intro w hw
    unfold attributeValueAt? at hw
    exact ⟨List.mem_of_find?_eq_some hw, by simpa using List.find?_some hw⟩
  rw [← htouches]
  constructor
  · exact hfound
  · rintro ⟨hv, hvtouches⟩
    have hsome : (attributeValueAt? attr line column).isSome :=
      List.find?_isSome.mpr ⟨v, hv, hvtouches⟩
    obtain ⟨w, hw⟩ := Option.isSome_iff_exists.mp hsome
    obtain ⟨hmem, hwtouches⟩ := hfound hw
    rw [hw, touches_unique (spans_attributeValues attr line).apart hv hmem hvtouches hwtouches]

/-! ## No opening is passed over -/

theorem not_quote_of_isBlank {c : Char} (h : Text.isBlank c = true) : ¬ (c = '"' ∨ c = '\'') := by
  rintro (rfl | rfl) <;> cases h

theorem IsOpening.eq_concat (hattr : '"' ∉ attr ∧ '\'' ∉ attr) {q : Char} {opening : Text}
    (h : IsOpening attr q opening) :
    ∃ init, opening = init ++ [q] ∧ ∀ c ∈ init, ¬ (c = '"' ∨ c = '\'') := by
  obtain ⟨-, blanks, blanks', hblanks, hblanks', rfl⟩ := h
  refine ⟨attr ++ (blanks ++ '=' :: blanks'), by simp, fun c hc => ?_⟩
  simp only [List.mem_append, List.mem_cons] at hc
  rcases hc with hc | hc | rfl | hc
  · rintro (rfl | rfl)
    · exact hattr.1 hc
    · exact hattr.2 hc
  · exact not_quote_of_isBlank (hblanks c hc)
  · decide
  · exact not_quote_of_isBlank (hblanks' c hc)

/-- Before the first quote of a text nothing depends on what follows it. -/
theorem eq_of_first_quote {a b behind behind' : Text} {q q' : Char}
    (ha : ∀ c ∈ a, ¬ (c = '"' ∨ c = '\'')) (hb : ∀ c ∈ b, ¬ (c = '"' ∨ c = '\''))
    (hq : q = '"' ∨ q = '\'') (hq' : q' = '"' ∨ q' = '\'')
    (h : a ++ q :: behind = b ++ q' :: behind') : a ++ [q] = b ++ [q'] := by
  have htake : ∀ {cs : Text} {d : Char} (rest : Text), (∀ c ∈ cs, ¬ (c = '"' ∨ c = '\'')) →
      (d = '"' ∨ d = '\'') →
      (cs ++ d :: rest).takeWhile (fun c => decide (¬ (c = '"' ∨ c = '\''))) = cs := by
    intro cs d rest hcs hd
    rw [List.takeWhile_append_of_pos fun c hc => decide_eq_true (hcs c hc),
      List.takeWhile_cons_of_neg (by simp [hd]), List.append_nil]
  obtain rfl : a = b := by rw [← htake behind ha hq, h, htake behind' hb hq']
  rw [(List.cons.inj (List.append_cancel_left h)).1]

/-- An opening that starts inside of another one ends with it. -/
theorem IsOpening.eq_of_within (hattr : '"' ∉ attr ∧ '\'' ∉ attr) {q q' : Char}
    {opening behind y z rest : Text} (houter : IsOpening attr q' (y ++ z)) (hz : z ≠ [])
    (hinner : IsOpening attr q opening) (h : opening ++ behind = z ++ rest) : opening = z := by
  obtain ⟨init', hinit', hfree'⟩ := houter.eq_concat hattr
  obtain ⟨init, rfl, hfree⟩ := hinner.eq_concat hattr
  obtain ⟨front, last, rfl⟩ := (List.eq_nil_or_concat z).resolve_left hz
  rw [List.concat_eq_append] at hinit' h ⊢
  rw [← List.append_assoc] at hinit'
  obtain ⟨hfront, hlast⟩ := List.append_inj' hinit' rfl
  obtain rfl : last = q' := List.singleton_inj.mp hlast
  have hfreefront : ∀ c ∈ front, ¬ (c = '"' ∨ c = '\'') := fun c hc =>
    hfree' c (hfront ▸ List.mem_append_right y hc)
  exact eq_of_first_quote hfree hfreefront hinner.1 houter.1 (by simpa using h)

/-- The first opening of what is left is the only one up to its own quote. -/
theorem OpensAt.first (hattr : '"' ∉ attr ∧ '\'' ∉ attr) {done skipped rest opening behind : Text}
    {q : Char} (unopened : Unopened attr done skipped rest)
    (opens : OpensAt attr (done ++ skipped) rest q opening behind)
    {done' rest' opening' behind' : Text} {q' : Char}
    (opens' : OpensAt attr done' rest' q' opening' behind')
    (hline : done ++ (skipped ++ rest) = done' ++ rest')
    (hlater : Text.bytes done ≤ Text.bytes done') :
    done' ++ opening' = done ++ (skipped ++ opening) ∨
      Text.bytes (done ++ (skipped ++ opening)) ≤ Text.bytes done' := by
  obtain ⟨x, rfl, hx⟩ := Text.parts_of_bytes_le hline hlater
  rcases Nat.lt_or_ge (Text.bytes x) (Text.bytes skipped) with hbefore | hbehind
  · -- nothing opens in what is skipped
    obtain ⟨b, rfl, hb⟩ := Text.parts_of_bytes_le hx.symm (Nat.le_of_lt hbefore)
    have hne : b ≠ [] := by
      rintro rfl
      simp at hbefore
    exact absurd (hb ▸ opens') (unopened x b rfl hne q' opening' behind')
  · obtain ⟨y, rfl, hy⟩ := Text.parts_of_bytes_le hx hbehind
    have hparts : opening ++ behind = y ++ rest' := opens.parts.symm.trans hy
    rcases Nat.lt_or_ge (Text.bytes y) (Text.bytes opening) with hwithin | hpast
    · obtain ⟨z, rfl, hz⟩ := Text.parts_of_bytes_le hparts.symm (Nat.le_of_lt hwithin)
      have hne : z ≠ [] := by
        rintro rfl
        simp at hwithin
      left
      rw [opens.isOpening.eq_of_within hattr hne opens'.isOpening (opens'.parts.symm.trans hz)]
      simp
    · right
      simp only [Text.bytes_append]
      omega

/-- Every opening outside the values opens one. -/
theorem Spans.opened (hattr : '"' ∉ attr ∧ '\'' ∉ attr) {done rest : Text}
    {values : List AttributeValue} (h : Spans attr done rest values)
    {done' rest' opening behind : Text} {q : Char}
    (opens : OpensAt attr done' rest' q opening behind)
    (hline : done ++ rest = done' ++ rest') (hlater : Text.bytes done ≤ Text.bytes done')
    (houtside : ∀ v ∈ values, v.start ≤ Text.bytes done' → v.stop < Text.bytes done') :
    ∃ v ∈ values, v.start = Text.bytes (done' ++ opening) := by
  induction h with
  | @none done rest unopened =>
    obtain ⟨x, rfl, hx⟩ := Text.parts_of_bytes_le hline hlater
    have hne : rest' ≠ [] := by
      rw [opens.parts]
      exact List.append_ne_nil_of_left_ne_nil opens.isOpening.ne_nil behind
    exact absurd (by simpa using opens) (unopened x rest' hx hne q opening behind)
  | @unclosed done skipped rest opening' value q' unopened opens' hq =>
    rcases opens'.first hattr unopened opens hline hlater with hsame | hpast
    · exact ⟨_, List.mem_singleton.mpr rfl, by rw [hsame]⟩
    · -- behind the start of the value there is nothing outside of it
      have hstop := houtside _ (List.mem_singleton.mpr rfl) hpast
      have hlength := congrArg Text.bytes hline
      rw [opens'.parts] at hlength
      simp only [AttributeValue.stop, Text.bytes_append] at hstop hlength
      omega
  | @closed done skipped rest opening' value tail q' values unopened opens' hq later ih =>
    rcases opens'.first hattr unopened opens hline hlater with hsame | hpast
    · exact ⟨_, List.mem_cons_self, by rw [hsame]⟩
    · have hstop := houtside _ List.mem_cons_self hpast
      have hline' :
          done ++ (skipped ++ (opening' ++ (value ++ [q']))) ++ tail = done' ++ rest' := by
        rw [← hline, opens'.parts]
        simp
      have hlater' : Text.bytes (done ++ (skipped ++ (opening' ++ (value ++ [q'])))) ≤
          Text.bytes done' := by
        simp only [AttributeValue.stop, Text.bytes_append, opens'.isOpening.bytes_quote] at hstop ⊢
        omega
      obtain ⟨v, hv, hstart⟩ := ih hline' hlater' fun v hv => houtside v (List.mem_cons_of_mem _ hv)
      exact ⟨v, List.mem_cons_of_mem _ hv, hstart⟩

/-- **The values of a line stand apart, and none is missing.** Let the name of the
attribute hold no quote. Each value stands between character boundaries of the
line, behind the quote of an opening; it holds no such quote, and is closed
exactly when one follows. Otherwise it goes to the end of the line and is the
last. Behind a value there is more than its quote before the next one starts, and
every opening that starts outside of the values before it opens a value. So a
column touches at most one value, and that is the one found for it. -/
theorem values_apart_and_complete (hattr : '"' ∉ attr ∧ '\'' ∉ attr) (line : Text) :
    (∀ v ∈ attributeValues attr line,
      (∃ q before behind, v.StandsIn attr line q before behind) ∧
      Text.slice? v.start v.stop line = some v.text ∧
      (v.closed = false →
        v.stop = Text.bytes line ∧ (attributeValues attr line).getLast? = some v)) ∧
    (attributeValues attr line).Pairwise (fun v w => v.stop + 1 < w.start) ∧
    (∀ done rest q opening behind, line = done ++ rest →
      OpensAt attr done rest q opening behind →
      (∀ v ∈ attributeValues attr line, v.start ≤ Text.bytes done → v.stop < Text.bytes done) →
      ∃ v ∈ attributeValues attr line, v.start = Text.bytes (done ++ opening)) ∧
    ∀ column,
      (∀ v ∈ attributeValues attr line, ∀ w ∈ attributeValues attr line,
        v.touches column = true → w.touches column = true → v = w) ∧
      ∀ v, attributeValueAt? attr line column = some v ↔
        v ∈ attributeValues attr line ∧ v.start ≤ column ∧ column ≤ v.stop := by
  have hspans := spans_attributeValues attr line
  refine ⟨fun v hv => ?stands, hspans.apart, fun done rest q opening behind hline opens => ?opened,
    fun column => ⟨fun v hv w hw => touches_unique hspans.apart hv hw, fun v => ?found⟩⟩
  case stands =>
    obtain ⟨q, before, behind, hstands⟩ := hspans.standsIn hv
    rw [List.nil_append] at hstands
    refine ⟨⟨q, before, behind, hstands⟩, hstands.slice?_eq, fun hclosed => ⟨?_, ?_⟩⟩
    · rw [hstands.line_eq, hstands.unclosed hclosed, AttributeValue.stop, hstands.start_eq]
      simp
    · exact hspans.last_of_unclosed hv hclosed
  case opened => exact hspans.opened hattr opens hline (Nat.zero_le _)
  case found => exact attributeValueAt?_eq_some

/-! A line with an attribute inside of a value, and a value that is still being typed. -/

namespace Nested

def name : Text := "styleName".toList

def line : Text := "<a styleName=\"x styleName='y'\" styleName = 'é ".toList

def finished : AttributeValue := ⟨14, "x styleName='y'".toList, true⟩

def typed : AttributeValue := ⟨44, "é ".toList, false⟩

end Nested

open Nested in
/-- The inner attribute opens no value of its own, and blanks of the unfinished value
belong to it. -/
theorem values_apart_and_complete_nested :
    ('"' ∉ name ∧ '\'' ∉ name) ∧ attributeValues name line = [finished, typed] ∧
    finished.stop + 1 < typed.start ∧ typed.stop = Text.bytes line ∧
    (∃ q before behind, typed.StandsIn name line q before behind) ∧
    ∀ column, attributeValueAt? name line column = some finished ↔ 14 ≤ column ∧ column ≤ 29 := by
  have hname : '"' ∉ name ∧ '\'' ∉ name := by decide
  have hvalues : attributeValues name line = [finished, typed] := by decide +kernel
  obtain ⟨hstands, hapart, -, hcolumns⟩ := values_apart_and_complete hname line
  rw [hvalues] at hstands hapart hcolumns
  obtain ⟨hwhere, -, hend⟩ := hstands typed (by simp)
  refine ⟨hname, hvalues, List.rel_of_pairwise_cons hapart (by simp), (hend rfl).1, hwhere,
    fun column => ?_⟩
  have hstop : finished.stop = 29 := by decide
  rw [(hcolumns column).2 finished, hstop]
  simp [finished]

end ClassLens
