import ClassLens.Check.Report
import ClassLens.Proofs.Document.Positions
import ClassLens.Proofs.Document.Spans
import ClassLens.Proofs.Editor.Usages
/-
  Apart — uses of class names, one behind the other

  The lines of a document, the values on a line and the class names in a value
  are all found from left to right. Offsets that take a long blank for one byte
  come out too small, but never so small that two names would meet: each use
  ends before the next one starts. So no two uses are at one place.

  What is proved:
    1. `pairwise_of_mapM`, `exists_of_mem_mapM` — results that may fail, one by one;
    2. `lineStartsFrom_apart`, `stop_le_of_mem_lineStartsFrom` — pieces at
       offsets that count one byte for each separator;
    3. `usages_apart`, `stop_le_of_mem_usages` — the uses in a document;
    4. `pairwise_findings` — no two findings in a document are at one place.
-/

namespace ClassLens

/-! ## Results that may fail -/

section Results

variable {α β ε : Type} {f : α → Except ε β} {l : List α} {results : List β}

theorem exists_eq_ok_of_isOk {result : Except ε α} (h : result.isOk = true) :
    ∃ a, result = .ok a := by
  cases result with
  | ok a => exact ⟨a, rfl⟩
  | error e => cases h

theorem mapM_cons_eq_ok {a : α} :
    (a :: l).mapM f = .ok results ↔
      ∃ x rest, f a = .ok x ∧ l.mapM f = .ok rest ∧ results = x :: rest := by
  rw [List.mapM_cons]
  cases f a with
  | error e => simp [bind, Except.bind]
  | ok x =>
    cases l.mapM f with
    | error e => simp [bind, Except.bind]
    | ok rest => simp [bind, Except.bind, pure, Except.pure, eq_comm]

theorem length_of_mapM (h : l.mapM f = .ok results) : results.length = l.length := by
  induction l generalizing results with
  | nil =>
    cases h
    rfl
  | cons a l ih =>
    obtain ⟨x, rest, -, hrest, rfl⟩ := mapM_cons_eq_ok.mp h
    rw [List.length_cons, List.length_cons, ih hrest]

theorem exists_of_mem_mapM (h : l.mapM f = .ok results) {x : β} (hx : x ∈ results) :
    ∃ a ∈ l, f a = .ok x := by
  induction l generalizing results with
  | nil =>
    cases h
    cases hx
  | cons a l ih =>
    obtain ⟨y, rest, hy, hrest, rfl⟩ := mapM_cons_eq_ok.mp h
    rcases List.mem_cons.mp hx with rfl | hx
    · exact ⟨a, List.mem_cons_self, hy⟩
    · obtain ⟨b, hb, hbx⟩ := ih hrest hx
      exact ⟨b, List.mem_cons_of_mem a hb, hbx⟩

/-- What holds between the results for any two elements holds between the results in order. -/
theorem pairwise_of_mapM {R : α → α → Prop} {S : β → β → Prop} (h : l.mapM f = .ok results)
    (hl : l.Pairwise R)
    (hstep : ∀ a ∈ l, ∀ b ∈ l, R a b → ∀ x y, f a = .ok x → f b = .ok y → S x y) :
    results.Pairwise S := by
  induction l generalizing results with
  | nil =>
    cases h
    exact .nil
  | cons a l ih =>
    obtain ⟨x, rest, hx, hrest, rfl⟩ := mapM_cons_eq_ok.mp h
    obtain ⟨hfirst, hlater⟩ := List.pairwise_cons.mp hl
    refine List.pairwise_cons.mpr ⟨fun y hy => ?_, ih hrest hlater fun b hb c hc =>
      hstep b (List.mem_cons_of_mem a hb) c (List.mem_cons_of_mem a hc)⟩
    obtain ⟨b, hb, hby⟩ := exists_of_mem_mapM hrest hy
    exact hstep a List.mem_cons_self b (List.mem_cons_of_mem a hb) (hfirst b hb) x y hx hby

end Results

/-! ## Pieces -/

namespace Document

variable {offset start : Nat} {piece : Text}

theorem start_le_of_mem_lineStartsFrom {pieces : List Text}
    (h : (offset, piece) ∈ lineStartsFrom start pieces) : start ≤ offset := by
  induction pieces generalizing start with
  | nil => cases h
  | cons first rest ih =>
    rcases List.mem_cons.mp h with heq | hlater
    · exact Nat.le_of_eq (Prod.mk.inj heq).1.symm
    · have hle := ih hlater
      omega

theorem lineStartsFrom_apart (start : Nat) (pieces : List Text) :
    (lineStartsFrom start pieces).Pairwise fun a b => a.1 + Text.bytes a.2 < b.1 := by
  induction pieces generalizing start with
  | nil => exact .nil
  | cons first rest ih =>
    refine List.pairwise_cons.mpr ⟨fun row hrow => ?_, ih _⟩
    have hle := start_le_of_mem_lineStartsFrom hrow
    show start + Text.bytes first < row.1
    omega

/-- No piece ends behind the end of the text, as no separator is shorter than the
byte that is counted for it. -/
theorem stop_le_of_mem_lineStartsFrom {p : Char → Bool} {cs : Text}
    (h : (offset, piece) ∈ lineStartsFrom start (Text.split p cs)) :
    offset + Text.bytes piece ≤ start + Text.bytes cs := by
  induction cs generalizing start offset piece with
  | nil =>
    obtain ⟨rfl, rfl⟩ : offset = start ∧ piece = [] := by
      simpa [Text.split, lineStartsFrom] using h
    exact Nat.le_refl _
  | cons c cs ih =>
    have hpos := Char.utf8Size_pos c
    have hbytes := Text.bytes_cons c cs
    cases hc : p c with
    | true =>
      simp only [Text.split, hc, if_true, lineStartsFrom, List.mem_cons, Prod.mk.injEq] at h
      rcases h with ⟨rfl, rfl⟩ | h
      · simp
      · have hle := ih h
        simp only [Text.bytes_nil] at hle
        omega
    | false =>
      obtain ⟨first, rest, hsplit⟩ := List.exists_cons_of_ne_nil (Text.split_ne_nil p cs)
      simp only [Text.split, hc, Bool.false_eq_true, if_false, hsplit, lineStartsFrom,
        List.mem_cons, Prod.mk.injEq] at h
      rw [hsplit] at ih
      rcases h with ⟨rfl, rfl⟩ | h
      · -- the first piece grows by the character
        have hhead : (offset, first) ∈ lineStartsFrom offset (first :: rest) := List.mem_cons_self
        have hle := ih hhead
        rw [Text.bytes_cons, hbytes]
        omega
      · rw [Text.bytes_cons, ← Nat.add_assoc start] at h
        have hlater : (offset, piece) ∈ lineStartsFrom (start + c.utf8Size) (first :: rest) :=
          List.mem_cons_of_mem _ h
        have hle := ih hlater
        omega

end Document

/-! ## Uses of class names -/

section Uses

variable {attr : Text} {start : Nat} {line : Text} {doc : Document}

theorem stop_le_of_mem_attributeValues {v : AttributeValue} (h : v ∈ attributeValues attr line) :
    v.stop ≤ Text.bytes line := by
  obtain ⟨q, before, behind, hstands⟩ := standsIn_of_mem h
  rw [hstands.stop_eq, hstands.line_eq, ← List.append_assoc, Text.bytes_append _ behind]
  exact Nat.le_add_right _ _

theorem stop_le_of_mem_classTokens {value token : Text} {offset : Nat}
    (h : (offset, token) ∈ classTokens value) : offset + Text.bytes token ≤ Text.bytes value := by
  unfold classTokens at h
  rw [tokensFrom_eq_filter] at h
  have hle := Document.stop_le_of_mem_lineStartsFrom (List.mem_filter.mp h).1
  omega

theorem classTokens_apart (value : Text) :
    (classTokens value).Pairwise fun a b => a.1 + Text.bytes a.2 < b.1 := by
  unfold classTokens
  rw [tokensFrom_eq_filter]
  exact (Document.lineStartsFrom_apart 0 _).filter _

theorem bounds_of_mem_usagesOnLine {u : Usage} (h : u ∈ usagesOnLine attr start line) :
    start ≤ u.start ∧ u.start ≤ u.stop ∧ u.stop ≤ start + Text.bytes line := by
  unfold usagesOnLine at h
  obtain ⟨v, hv, hu⟩ := List.mem_flatMap.mp h
  obtain ⟨⟨offset, token⟩, htoken, rfl⟩ := List.mem_map.mp hu
  have hvalue := stop_le_of_mem_attributeValues (List.mem_filter.mp hv).1
  have hname := stop_le_of_mem_classTokens htoken
  unfold AttributeValue.stop at hvalue
  refine ⟨?_, ?_, ?_⟩
  · show start ≤ start + v.start + offset
    omega
  · show start + v.start + offset ≤ start + v.start + offset + Text.bytes token
    omega
  · show start + v.start + offset + Text.bytes token ≤ start + Text.bytes line
    omega

theorem usagesOnLine_apart (attr : Text) (start : Nat) (line : Text) :
    (usagesOnLine attr start line).Pairwise fun u w => u.stop < w.start := by
  unfold usagesOnLine
  refine List.pairwise_flatMap.mpr ⟨fun v _ => ?inside, ?between⟩
  case inside =>
    refine List.pairwise_map.mpr ((classTokens_apart v.text).imp fun {a b} hab => ?_)
    show start + v.start + a.1 + Text.bytes a.2 < start + v.start + b.1
    omega
  case between =>
    refine ((spans_attributeValues attr line).apart.filter _).imp fun {v w} hvw u hu x hx => ?_
    obtain ⟨⟨offset, token⟩, htoken, rfl⟩ := List.mem_map.mp hu
    obtain ⟨⟨offset', token'⟩, -, rfl⟩ := List.mem_map.mp hx
    have hname := stop_le_of_mem_classTokens htoken
    unfold AttributeValue.stop at hvw
    show start + v.start + offset + Text.bytes token < start + w.start + offset'
    omega

theorem bytes_dropReturns_le (line : Text) :
    Text.bytes (Document.dropReturns line) ≤ Text.bytes line := by
  obtain ⟨returns, hreturns⟩ := Document.dropReturns_parts line
  have hbytes := congrArg Text.bytes hreturns
  rw [Text.bytes_append] at hbytes
  omega

/-- In a document each use ends before the next one starts. -/
theorem usages_apart (doc : Document) (attr : Text) :
    (usages doc attr).Pairwise fun u w => u.stop < w.start := by
  unfold usages
  refine List.pairwise_flatMap.mpr ⟨fun row _ => usagesOnLine_apart attr _ _, ?_⟩
  refine (Document.lineStartsFrom_apart 0 _).imp fun {a b} hab u hu w hw => ?_
  obtain ⟨-, -, hstop⟩ := bounds_of_mem_usagesOnLine hu
  obtain ⟨hstart, -, -⟩ := bounds_of_mem_usagesOnLine hw
  have hline := bytes_dropReturns_le a.2
  omega

theorem stop_le_of_mem_usages {u : Usage} (h : u ∈ usages doc attr) :
    u.start ≤ u.stop ∧ u.stop ≤ Text.bytes doc.text := by
  unfold usages at h
  obtain ⟨⟨start, line⟩, hrow, hu⟩ := List.mem_flatMap.mp h
  obtain ⟨-, hle, hstop⟩ := bounds_of_mem_usagesOnLine hu
  have hend := Document.stop_le_of_mem_lineStartsFrom hrow
  have hline := bytes_dropReturns_le line
  exact ⟨hle, by omega⟩

end Uses

/-! ## Findings -/

namespace Check

theorem finding_eq_ok {doc : Document} {u : Usage} {found : Finding} :
    finding doc u = .ok found ↔ ∃ p, doc.positionAt u.start = .ok p ∧
      found = ⟨doc.path, p.line + 1, p.character + 1, u.name⟩ := by
  unfold finding
  cases doc.positionAt u.start with
  | error fault => simp [bind, Except.bind]
  | ok p => simp [bind, Except.bind, pure, Except.pure, eq_comm]

/-- No two findings in a document are at one place. -/
theorem pairwise_findings {doc : Document} {attr : Text} {used : List Usage}
    (hused : used.Sublist (usages doc attr)) {found : List Finding}
    (h : used.mapM (finding doc) = .ok found) :
    found.Pairwise fun a b => ¬ (a.line = b.line ∧ a.column = b.column) := by
  refine pairwise_of_mapM h ((usages_apart doc attr).sublist hused) ?_
  intro u hu w hw hapart a b ha hb
  obtain ⟨p, hp, rfl⟩ := finding_eq_ok.mp ha
  obtain ⟨q, hq, rfl⟩ := finding_eq_ok.mp hb
  obtain ⟨huspan, -⟩ := stop_le_of_mem_usages (hused.mem hu)
  obtain ⟨hwspan, hwend⟩ := stop_le_of_mem_usages (hused.mem hw)
  have hne := Document.positionAt_ne (by omega) (by omega) hp hq
  rintro ⟨hline, hcolumn⟩
  simp only at hline hcolumn
  apply hne
  obtain ⟨line, character⟩ := p
  obtain ⟨line', character'⟩ := q
  simp only [Position.mk.injEq]
  simp only at hline hcolumn
  omega

end Check

end ClassLens
