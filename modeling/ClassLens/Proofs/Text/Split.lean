import ClassLens.Text.Basic
/-
  Splitting — the pieces between separators, and between offsets

  What is proved:
    1. `split_append_cons` — the first piece ends at the first separator;
       `split_append_of_forall_not`, `exists_split_append` — what becomes of a
       text without separators before the first piece or behind the last;
    2. `split_join` — pieces without the separator come back from what
       joining them gives;
    3. `not_of_mem_split` — no piece holds a separator; `infix_join_of_mem` —
       all pieces but the last have one behind them;
    4. `split_eq_splitOnP` — splitting is core's;
    5. `slice?_append`, `parts_of_slice?` — what stands between two offsets;
    6. `parts_of_bytes_le`, `eq_of_bytes_eq` — two ways to part one text;
    7. `startsWith_iff`, `contains_iff` — parts at the start and anywhere.
-/

namespace ClassLens

namespace Text

variable {α : Type}

theorem split_of_forall_not {p : α → Bool} {cs : List α} (h : ∀ c ∈ cs, p c = false) :
    split p cs = [cs] := by
  induction cs with
  | nil => rfl
  | cons c cs ih =>
    have hc : p c = false := h c List.mem_cons_self
    have hcs : split p cs = [cs] := ih fun d hd => h d (List.mem_cons_of_mem c hd)
    simp [split, hc, hcs]

theorem split_append_cons {p : α → Bool} {a : List α} {c : α} (ha : ∀ d ∈ a, p d = false)
    (hc : p c = true) (b : List α) : split p (a ++ c :: b) = a :: split p b := by
  induction a with
  | nil => simp [split, hc]
  | cons d a ih =>
    have hd : p d = false := ha d List.mem_cons_self
    have hrest := ih fun e he => ha e (List.mem_cons_of_mem d he)
    simp [split, hd, hrest]

theorem split_append_of_forall_not {p : α → Bool} {a b piece : List α} {rest : List (List α)}
    (ha : ∀ c ∈ a, p c = false) (hb : split p b = piece :: rest) :
    split p (a ++ b) = (a ++ piece) :: rest := by
  induction a with
  | nil => exact hb
  | cons c a ih =>
    have hc : p c = false := ha c List.mem_cons_self
    have hrest := ih fun d hd => ha d (List.mem_cons_of_mem c hd)
    simp [split, hc, hrest]

theorem exists_split_append {p : α → Bool} (a : List α) {b : List α} (hb : ∀ c ∈ b, p c = false) :
    ∃ front last, split p (a ++ b) = front ++ [last ++ b] := by
  induction a with
  | nil => exact ⟨[], [], by rw [List.nil_append, split_of_forall_not hb]; rfl⟩
  | cons c a ih =>
    obtain ⟨front, last, hsplit⟩ := ih
    rw [List.cons_append]
    by_cases hc : p c = true
    · exact ⟨[] :: front, last, by simp [split, hc, hsplit]⟩
    · cases front with
      | nil => exact ⟨[], c :: last, by simp [split, hc, hsplit]⟩
      | cons piece front => exact ⟨(c :: piece) :: front, last, by simp [split, hc, hsplit]⟩

/-- Pieces without the separator come back from what joining them gives. -/
theorem split_join [DecidableEq α] {sep : α} {ps : List (List α)} (hne : ps ≠ [])
    (h : ∀ t ∈ ps, sep ∉ t) : split (· = sep) (join [sep] ps) = ps := by
  have hpiece : ∀ t ∈ ps, ∀ c ∈ t, decide (c = sep) = false := by
    intro t ht c hc
    exact decide_eq_false fun e => h t ht (e ▸ hc)
  induction ps with
  | nil => exact absurd rfl hne
  | cons t rest ih =>
    cases rest with
    | nil => exact split_of_forall_not (hpiece t List.mem_cons_self)
    | cons u rest =>
      show split (· = sep) (t ++ [sep] ++ join [sep] (u :: rest)) = _
      rw [List.append_assoc, List.singleton_append,
        split_append_cons (hpiece t List.mem_cons_self) (decide_eq_true rfl)]
      rw [ih (by simp) (fun v hv => h v (List.mem_cons_of_mem t hv))
        (fun v hv => hpiece v (List.mem_cons_of_mem t hv))]

theorem infix_join_of_mem (sep : List α) {front : List (List α)} {piece : List α}
    (h : piece ∈ front) (last : List α) : piece ++ sep <:+: join sep (front ++ [last]) := by
  induction front with
  | nil => cases h
  | cons first front ih =>
    obtain ⟨next, rest, hnext⟩ : ∃ next rest, front ++ [last] = next :: rest :=
      List.exists_cons_of_ne_nil (by simp)
    have hjoin : join sep (first :: front ++ [last]) =
        first ++ sep ++ join sep (front ++ [last]) := by
      rw [List.cons_append, hnext]
      rfl
    rw [hjoin]
    rcases List.mem_cons.mp h with rfl | hmem
    · exact (List.prefix_append _ _).isInfix
    · exact (ih hmem).trans (List.suffix_append _ _).isInfix

theorem not_of_mem_split {p : α → Bool} {cs t : List α} (ht : t ∈ split p cs) {c : α}
    (hc : c ∈ t) : p c = false := by
  induction cs generalizing t with
  | nil =>
    rw [split, List.mem_singleton] at ht
    rw [ht] at hc
    cases hc
  | cons d cs ih =>
    obtain ⟨piece, rest, hsplit⟩ := List.exists_cons_of_ne_nil (split_ne_nil p cs)
    rw [hsplit] at ih
    cases hd : p d with
    | true =>
      simp only [split, hd, if_true, hsplit, List.mem_cons] at ht
      rcases ht with rfl | ht
      · cases hc
      · exact ih (List.mem_cons.mpr ht) hc
    | false =>
      simp only [split, hd, Bool.false_eq_true, if_false, hsplit, List.mem_cons] at ht
      rcases ht with rfl | ht
      · rcases List.mem_cons.mp hc with rfl | hc
        · exact hd
        · exact ih List.mem_cons_self hc
      · exact ih (List.mem_cons_of_mem piece ht) hc

theorem split_eq_splitOnP (p : α → Bool) (cs : List α) : split p cs = cs.splitOnP p := by
  induction cs with
  | nil => rfl
  | cons c cs ih =>
    rw [split, List.splitOnP_cons_eq_if_modifyHead, ih]
    split
    · rfl
    · cases hpieces : cs.splitOnP p with
      | nil => exact absurd (ih.trans hpieces) (split_ne_nil p cs)
      | cons piece rest => rfl

/-- The text between two offsets is the part that stands there. -/
theorem slice?_append (a b c : Text) :
    slice? (bytes a) (bytes a + bytes b) (a ++ (b ++ c)) = some b := by
  have hcut : cut? (bytes a + bytes b) (a ++ (b ++ c)) = some (a ++ b, c) := by
    rw [← bytes_append, ← List.append_assoc]
    exact cut?_append (a ++ b) c
  simp [slice?, hcut, cut?_append]

theorem parts_of_slice? {start stop : Nat} {cs middle : Text}
    (h : slice? start stop cs = some middle) :
    ∃ before behind, cs = before ++ (middle ++ behind) ∧ bytes before = start := by
  unfold slice? at h
  obtain ⟨⟨front, behind⟩, hstop, h⟩ := Option.bind_eq_some_iff.mp h
  obtain ⟨⟨before, middle'⟩, hstart, h⟩ := Option.bind_eq_some_iff.mp h
  obtain rfl : middle' = middle := Option.some.inj h
  obtain ⟨hfront, -⟩ := append_of_cut?_eq_some hstop
  obtain ⟨hmiddle, hbytes⟩ := append_of_cut?_eq_some hstart
  exact ⟨before, behind, by rw [← hfront, ← hmiddle, List.append_assoc], hbytes⟩

theorem eq_nil_of_bytes_eq_zero {cs : Text} (h : bytes cs = 0) : cs = [] := by
  cases cs with
  | nil => rfl
  | cons c cs =>
    have hpos := Char.utf8Size_pos c
    rw [bytes_cons] at h
    omega

theorem parts_of_bytes_le {a b c d : Text} (h : a ++ b = c ++ d) (hle : bytes a ≤ bytes c) :
    ∃ x, c = a ++ x ∧ b = x ++ d := by
  rcases List.append_eq_append_iff.mp h with hlater | ⟨x, rfl, rfl⟩
  · exact hlater
  · rw [bytes_append] at hle
    obtain rfl : x = [] := eq_nil_of_bytes_eq_zero (by omega)
    exact ⟨[], by simp, rfl⟩

/-- A place in a text is known by the bytes before it. -/
theorem eq_of_bytes_eq {a b c d : Text} (h : a ++ b = c ++ d) (hbytes : bytes a = bytes c) :
    a = c ∧ b = d := by
  obtain ⟨x, rfl, rfl⟩ := parts_of_bytes_le h (Nat.le_of_eq hbytes)
  rw [bytes_append] at hbytes
  obtain rfl : x = [] := eq_nil_of_bytes_eq_zero (by omega)
  exact ⟨(List.append_nil a).symm, rfl⟩

/-! ## Parts of a text -/

theorem startsWith_iff {part cs : Text} :
    startsWith part cs = true ↔ ∃ rest, cs = part ++ rest := by
  unfold startsWith
  rw [List.isPrefixOf_iff_prefix]
  constructor
  · rintro ⟨rest, h⟩
    exact ⟨rest, h.symm⟩
  · rintro ⟨rest, h⟩
    exact ⟨rest, h.symm⟩

theorem contains_iff {part cs : Text} : contains part cs = true ↔ part <:+: cs := by
  induction cs with
  | nil => simp [contains]
  | cons c cs ih =>
    rw [contains, Bool.or_eq_true, ih, List.infix_cons_iff, startsWith,
      List.isPrefixOf_iff_prefix]

theorem contains_eq_false_iff {part cs : Text} :
    contains part cs = false ↔ ¬ part <:+: cs := by
  rw [Bool.eq_false_iff, ne_eq, contains_iff]

end Text

end ClassLens
