import ClassLens.Editor.Unknown
import ClassLens.Proofs.Document.Places
import ClassLens.Proofs.Document.Values
/-
  Usages — where the class names of a document stand

  Lines and class names are both found by splitting, and their offsets follow
  from the lengths of the pieces before them, with one byte for each separator.
  That is right for line breaks. Blanks may be longer, and then the offsets of
  the names behind them are too small.

  What is proved:
    1. `mem_lineStartsFrom_split` — a piece stands at its offset, if no
       separator is longer than one byte;
    2. `usage_parts` — so does every class name that a document uses;
    3. `exists_ranges` — a document with such blanks has a range for each use.
-/

namespace ClassLens

/-! ## Pieces at their offsets -/

theorem Document.mem_lineStartsFrom_split {p : Char → Bool} {cs : Text}
    (hone : ∀ c ∈ cs, p c = true → c.utf8Size = 1) {start offset : Nat} {piece : Text}
    (h : (offset, piece) ∈ lineStartsFrom start (Text.split p cs)) :
    ∃ before behind, cs = before ++ (piece ++ behind) ∧ offset = start + Text.bytes before := by
  induction cs generalizing start offset piece with
  | nil =>
    obtain ⟨rfl, rfl⟩ : offset = start ∧ piece = [] := by
      simpa [Text.split, lineStartsFrom] using h
    exact ⟨[], [], rfl, rfl⟩
  | cons c cs ih =>
    have hone' : ∀ d ∈ cs, p d = true → d.utf8Size = 1 := fun d hd =>
      hone d (List.mem_cons_of_mem c hd)
    obtain ⟨first, rest, hsplit⟩ := List.exists_cons_of_ne_nil (Text.split_ne_nil p cs)
    -- a later piece stands behind the first character too
    have hlater : ∀ {start' : Nat}, start' = start + c.utf8Size →
        (offset, piece) ∈ lineStartsFrom start' (Text.split p cs) →
        ∃ before behind, c :: cs = before ++ (piece ++ behind) ∧
          offset = start + Text.bytes before := by
      rintro _ rfl hmem
      obtain ⟨before, behind, hcs, hoffset⟩ := ih hone' hmem
      refine ⟨c :: before, behind, by rw [hcs]; rfl, ?_⟩
      rw [hoffset, Text.bytes_cons, Nat.add_assoc]
    cases hc : p c with
    | true =>
      simp only [Text.split, hc, if_true, lineStartsFrom, List.mem_cons, Prod.mk.injEq] at h
      rcases h with ⟨rfl, rfl⟩ | h
      · exact ⟨[], c :: cs, rfl, rfl⟩
      · refine hlater ?_ h
        rw [hone c List.mem_cons_self hc]
        rfl
    | false =>
      simp only [Text.split, hc, Bool.false_eq_true, if_false, hsplit, lineStartsFrom,
        List.mem_cons, Prod.mk.injEq] at h
      rw [hsplit] at hlater ih
      rcases h with ⟨rfl, rfl⟩ | h
      · -- the first piece grows by the character, and nothing stands before it
        have hhead : (offset, first) ∈ lineStartsFrom offset (first :: rest) := List.mem_cons_self
        obtain ⟨before, behind, hcs, hoffset⟩ := ih hone' hhead
        have hbefore : before = [] := by
          cases before with
          | nil => rfl
          | cons d before =>
            have hpos := Char.utf8Size_pos d
            rw [Text.bytes_cons] at hoffset
            omega
        refine ⟨[], behind, ?_, rfl⟩
        rw [hcs, hbefore]
        rfl
      · refine hlater rfl (List.mem_cons_of_mem _ ?_)
        rw [Text.bytes_cons] at h
        rwa [Nat.add_assoc start]

theorem tokensFrom_eq_filter (offset : Nat) (pieces : List Text) :
    tokensFrom offset pieces = (Document.lineStartsFrom offset pieces).filter (·.2 ≠ []) := by
  induction pieces generalizing offset with
  | nil => rfl
  | cons piece rest ih =>
    unfold tokensFrom Document.lineStartsFrom
    by_cases hpiece : piece = [] <;> simp [hpiece, ih]

theorem mem_classTokens {value : Text}
    (hone : ∀ c ∈ value, Text.isBlank c = true → c.utf8Size = 1) {offset : Nat} {token : Text}
    (h : (offset, token) ∈ classTokens value) :
    ∃ before behind, value = before ++ (token ++ behind) ∧ offset = Text.bytes before := by
  unfold classTokens at h
  rw [tokensFrom_eq_filter] at h
  obtain ⟨before, behind, hvalue, hoffset⟩ :=
    Document.mem_lineStartsFrom_split hone (List.mem_filter.mp h).1
  exact ⟨before, behind, hvalue, by rw [hoffset, Nat.zero_add]⟩

/-! ## Uses of class names -/

variable {doc : Document} {attr : Text} {u : Usage}

theorem mem_usagesOnLine {start : Nat} {line : Text} (h : u ∈ usagesOnLine attr start line) :
    ∃ before value behind offset, line = before ++ (value ++ behind) ∧
      (offset, u.name) ∈ classTokens value ∧ u.start = start + Text.bytes before + offset ∧
      u.stop = u.start + Text.bytes u.name := by
  obtain ⟨values, hvalues⟩ := exists_closedValues attr [] line
  unfold usagesOnLine at h
  rw [attributeValues_eq hvalues] at h
  simp only [List.mem_flatMap, List.mem_map] at h
  obtain ⟨-, ⟨⟨before, value⟩, hmem, rfl⟩, ⟨offset, token⟩, htoken, rfl⟩ := h
  obtain ⟨q, -, tail, -, -, hline⟩ := hvalues.parts hmem
  exact ⟨before, value, q :: tail, offset, hline, htoken, rfl, rfl⟩

/-- A class name that a document uses stands between its offsets, if no blank
is longer than one byte. -/
theorem usage_parts (hone : ∀ c ∈ doc.text, Text.isBlank c = true → c.utf8Size = 1)
    (h : u ∈ usages doc attr) :
    ∃ before behind, doc.text = before ++ (u.name ++ behind) ∧ u.start = Text.bytes before ∧
      u.stop = Text.bytes before + Text.bytes u.name := by
  obtain ⟨⟨start, line⟩, hrow, hu⟩ := List.mem_flatMap.mp h
  have hbreak : ∀ c ∈ doc.text, decide (c = '\n') = true → c.utf8Size = 1 := by
    intro c _ hc
    rw [of_decide_eq_true hc]
    rfl
  obtain ⟨above, below, htext, hstart⟩ := Document.mem_lineStartsFrom_split hbreak hrow
  obtain ⟨returns, hreturns⟩ := Document.dropReturns_parts line
  obtain ⟨before, value, behind, offset, hline, htoken, hustart, hustop⟩ := mem_usagesOnLine hu
  rw [hline] at hreturns
  have hparts : doc.text = above ++ (before ++ (value ++ (behind ++ (returns ++ below)))) := by
    rw [htext, hreturns]
    simp only [List.append_assoc]
  have honeValue : ∀ c ∈ value, Text.isBlank c = true → c.utf8Size = 1 := by
    intro c hc
    refine hone c ?_
    rw [hparts]
    simp [hc]
  obtain ⟨left, right, hvalue, hoffset⟩ := mem_classTokens honeValue htoken
  have hplace : u.start = Text.bytes (above ++ (before ++ left)) := by
    rw [hustart, hstart, hoffset, Text.bytes_append, Text.bytes_append]
    omega
  refine ⟨above ++ (before ++ left), right ++ (behind ++ (returns ++ below)), ?_, hplace, ?_⟩
  · rw [hparts, hvalue]
    simp only [List.append_assoc]
  · rw [hustop, hplace]

/-- In a document whose blanks have one byte each, all uses can be reported. -/
theorem exists_ranges (hone : ∀ c ∈ doc.text, Text.isBlank c = true → c.utf8Size = 1)
    {used : List Usage} (h : ∀ u ∈ used, u ∈ usages doc attr) :
    ∃ found : List Diagnostic,
      (used.mapM fun u => do return (⟨u.name, ← doc.rangeOf u.start u.stop⟩ : Diagnostic)) =
        .ok found ∧ found.map (·.name) = used.map (·.name) := by
  induction used with
  | nil => exact ⟨[], rfl, rfl⟩
  | cons u used ih =>
    obtain ⟨found, hfound, hnames⟩ := ih fun v hv => h v (List.mem_cons_of_mem u hv)
    obtain ⟨before, behind, htext, hstart, hstop⟩ := usage_parts hone (h u List.mem_cons_self)
    obtain ⟨range, hrange⟩ := Document.exists_rangeOf htext
    refine ⟨⟨u.name, range⟩ :: found, ?_, by rw [List.map_cons, hnames]; rfl⟩
    rw [List.mapM_cons, hfound, hstart, hstop, hrange]
    rfl

end ClassLens
