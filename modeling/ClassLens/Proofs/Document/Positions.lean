import ClassLens.Proofs.Document.Places
/-
  Positions — places and offsets lead to one another

  A text is a sequence of lines, each with what is above and below it and with
  the carriage returns at its end set apart. The place of an offset is the line
  it is on and the units before it there; the offset of a place is that of the
  first character boundary at or behind its column.

  What is proved:
    1. `Line.row?_eq`, `nonempty_line_iff` — the lines of a text, and which there are;
    2. `exists_reaches` — the byte column of a column;
    3. `Line.positionAt_eq`, `Line.offsetAt?_eq` — a boundary on a line has its
       place, and the place leads back to it;
    4. `offsetAt?_le`, `positionAt_le` — both ways keep the order; `positionAt_ne` —
       no two offsets in a text have one place;
    5. `exists_fault_iff` — only an offset inside a character has no place;
    6. `positions_and_offsets` — all of it.
-/

namespace ClassLens

namespace Text

/-- An offset falls inside a character of a text. -/
def Inside (offset : Nat) (cs : Text) : Prop :=
  ∃ before c behind, cs = before ++ c :: behind ∧ bytes before < offset ∧
    offset < bytes before + c.utf8Size

theorem cut?_of_inside {n : Nat} {cs : Text} (h : Inside n cs) : cut? n cs = none := by
  obtain ⟨before, c, behind, hparts, hfrom, hto⟩ := h
  rw [Option.eq_none_iff_forall_ne_some]
  rintro ⟨a, b⟩ hcut
  obtain ⟨happend, hbytes⟩ := append_of_cut?_eq_some hcut
  obtain ⟨x, hx, hrest⟩ := parts_of_bytes_le (hparts.symm.trans happend.symm) (by omega)
  cases x with
  | nil =>
    rw [List.append_nil] at hx
    rw [hx] at hbytes
    omega
  | cons d x =>
    obtain ⟨rfl, -⟩ := List.cons.inj hrest
    rw [hx, bytes_append, bytes_cons] at hbytes
    omega

theorem inside_of_cut? {n : Nat} {cs : Text} (hle : n ≤ bytes cs) (h : cut? n cs = none) :
    Inside n cs := by
  induction cs generalizing n with
  | nil =>
    obtain rfl : n = 0 := by simpa using hle
    cases h
  | cons c cs ih =>
    cases n with
    | zero => cases h
    | succ n =>
      rw [bytes_cons] at hle
      rw [cut?] at h
      split at h
      · obtain ⟨before, d, behind, rfl, hfrom, hto⟩ :=
          ih (by omega) (Option.map_eq_none_iff.mp h)
        exact ⟨c :: before, d, behind, rfl, by rw [bytes_cons]; omega, by rw [bytes_cons]; omega⟩
      · exact ⟨[], c, cs, rfl, by simp, by simp; omega⟩

theorem charUnits_le (c : Char) : charUnits c ≤ c.utf8Size := by
  have hpos := Char.utf8Size_pos c
  unfold charUnits
  split
  · omega
  · rename_i hlarge
    have hsize : c.utf8Size = 4 := by
      rw [Char.utf8Size_eq_four_iff, UInt32.lt_iff_toNat_lt]
      exact Nat.lt_of_succ_le (Nat.not_lt.mp hlarge)
    omega

theorem units_le_bytes (cs : Text) : units cs ≤ bytes cs := by
  induction cs with
  | nil => exact Nat.le_refl 0
  | cons c cs ih =>
    have hc := charUnits_le c
    rw [units, bytes_cons]
    omega

theorem length_le_bytes (cs : Text) : cs.length ≤ bytes cs := by
  induction cs with
  | nil => exact Nat.le_refl 0
  | cons c cs ih =>
    have hpos := Char.utf8Size_pos c
    rw [List.length_cons, bytes_cons]
    omega

theorem length_split {p : Char → Bool} (cs : Text) : (split p cs).length = cs.countP p + 1 := by
  induction cs with
  | nil => rfl
  | cons c cs ih =>
    obtain ⟨piece, rest, hsplit⟩ := List.exists_cons_of_ne_nil (split_ne_nil p cs)
    rw [hsplit] at ih
    cases hc : p c <;> simp_all [split]

end Text

/-- Places in the order of the text: by lines, and by columns on one line. -/
instance : LE Position :=
  ⟨fun p q => p.line < q.line ∨ p.line = q.line ∧ p.character ≤ q.character⟩

namespace Document

/-! ## Lines -/

/-- A line of a text, with the lines above it, its text as it is shown, the
carriage returns at its end and all that is below. -/
structure Line (text : Text) (number : Nat) where
  above : Text
  shown : Text
  returns : Text
  below : Text
  text_eq : text = above ++ (shown ++ (returns ++ below))
  number_eq : above.count '\n' = number
  above_ends : above = [] ∨ above.getLast? = some '\n'
  unbroken : '\n' ∉ shown
  shown_ends : shown.getLast? ≠ some '\r'
  only_returns : ∀ c ∈ returns, c = '\r'
  below_starts : below = [] ∨ below.head? = some '\n'

theorem dropReturns_append {shown returns : Text} (hshown : shown.getLast? ≠ some '\r')
    (hreturns : ∀ c ∈ returns, c = '\r') : dropReturns (shown ++ returns) = shown := by
  have hall : ∀ c ∈ returns.reverse, decide (c = '\r') = true := fun c hc =>
    decide_eq_true (hreturns c (List.mem_reverse.mp hc))
  unfold dropReturns
  rw [List.reverse_append, List.dropWhile_append_of_pos hall]
  rcases List.eq_nil_or_concat shown with rfl | ⟨init, c, rfl⟩
  · rfl
  · have hc : c ≠ '\r' := fun heq => hshown (by simp [heq])
    simp [hc]

theorem returns_parts (line : Text) :
    ∃ shown returns, line = shown ++ returns ∧ shown.getLast? ≠ some '\r' ∧
      ∀ c ∈ returns, c = '\r' := by
  refine ⟨dropReturns line, (line.reverse.takeWhile (· = '\r')).reverse, ?_, ?_, fun c hc => ?_⟩
  · unfold dropReturns
    rw [← List.reverse_append, List.takeWhile_append_dropWhile, List.reverse_reverse]
  · have hnot := List.head?_dropWhile_not (· = '\r') line.reverse
    unfold dropReturns
    rw [List.getLast?_reverse]
    intro hhead
    rw [hhead] at hnot
    simp at hnot
  · simpa using List.all_eq_true.mp List.all_takeWhile c (List.mem_reverse.mp hc)

/-- A text up to behind its last line break, and what follows. -/
theorem last_break_parts (before : Text) :
    ∃ above left, before = above ++ left ∧ (above = [] ∨ above.getLast? = some '\n') ∧
      '\n' ∉ left := by
  refine ⟨(before.reverse.dropWhile (· ≠ '\n')).reverse,
    (before.reverse.takeWhile (· ≠ '\n')).reverse, ?_, ?_, ?_⟩
  · rw [← List.reverse_append, List.takeWhile_append_dropWhile, List.reverse_reverse]
  · rw [List.getLast?_reverse, List.reverse_eq_nil_iff]
    exact dropWhile_break before.reverse
  · rw [List.mem_reverse]
    exact not_mem_takeWhile_break before.reverse

theorem exists_line (before behind : Text) :
    ∃ (l : Line (before ++ behind) (before.count '\n')) (left : Text),
      before = l.above ++ left ∧ left <+: l.shown ++ l.returns := by
  obtain ⟨above, left, rfl, habove, hleft⟩ := last_break_parts before
  obtain ⟨shown, returns, hline, hshown, hreturns⟩ :=
    returns_parts (left ++ behind.takeWhile (· ≠ '\n'))
  have hunbroken : '\n' ∉ shown ++ returns := by
    rw [← hline, List.mem_append, not_or]
    exact ⟨hleft, not_mem_takeWhile_break behind⟩
  have htext : above ++ left ++ behind =
      above ++ (shown ++ (returns ++ behind.dropWhile (· ≠ '\n'))) := by
    rw [← List.append_assoc shown, ← hline]
    simp
  have hcount : above.count '\n' = (above ++ left).count '\n' := by
    rw [List.count_append, List.count_eq_zero_of_not_mem hleft, Nat.add_zero]
  exact ⟨⟨above, shown, returns, _, htext, hcount, habove,
    fun hmem => hunbroken (List.mem_append_left _ hmem), hshown, hreturns,
    dropWhile_break behind⟩, left, rfl, _, hline⟩

theorem exists_count_eq {text : Text} {number : Nat} (h : number ≤ text.count '\n') :
    ∃ before behind, text = before ++ behind ∧ before.count '\n' = number := by
  induction text generalizing number with
  | nil => exact ⟨[], [], rfl, (Nat.le_zero.mp h).symm⟩
  | cons c text ih =>
    cases number with
    | zero => exact ⟨[], c :: text, rfl, rfl⟩
    | succ number =>
      by_cases hc : c = '\n'
      · have hle : number ≤ text.count '\n' := by simpa [hc] using h
        obtain ⟨before, behind, rfl, hcount⟩ := ih hle
        exact ⟨c :: before, behind, rfl, by simp [hc, hcount]⟩
      · have hle : number + 1 ≤ text.count '\n' := by simpa [hc] using h
        obtain ⟨before, behind, rfl, hcount⟩ := ih hle
        exact ⟨c :: before, behind, rfl, by simp [hc, hcount]⟩

theorem length_lineStartsFrom (start : Nat) (pieces : List Text) :
    (lineStartsFrom start pieces).length = pieces.length := by
  induction pieces generalizing start with
  | nil => rfl
  | cons piece rest ih => rw [lineStartsFrom, List.length_cons, List.length_cons, ih]

theorem lineCount_eq (doc : Document) : doc.lineCount = doc.text.count '\n' + 1 := by
  unfold lineCount rows
  rw [length_lineStartsFrom, Text.length_split]
  rfl

namespace Line

variable {doc : Document} {text : Text} {number : Nat}

theorem row?_eq (l : Line doc.text number) :
    doc.row? number = some (Text.bytes l.above, l.shown) := by
  have htext : doc.text = l.above ++ ((l.shown ++ l.returns) ++ l.below) := by
    rw [List.append_assoc]
    exact l.text_eq
  have hunbroken : '\n' ∉ l.shown ++ l.returns := by
    rw [List.mem_append, not_or]
    exact ⟨l.unbroken, fun hmem => absurd (l.only_returns _ hmem) (by decide)⟩
  have hrow := Document.row?_eq htext l.above_ends hunbroken l.below_starts
  rwa [l.number_eq, dropReturns_append l.shown_ends l.only_returns] at hrow

theorem bytes_le_above (l : Line text number) {number' : Nat} (l' : Line text number')
    (h : number < number') : Text.bytes (l.above ++ l.shown) ≤ Text.bytes l'.above := by
  rcases Nat.le_total (Text.bytes (l.above ++ l.shown)) (Text.bytes l'.above) with hle | hle
  · exact hle
  · -- otherwise no more line breaks would be above the later line
    have hsame : l'.above ++ (l'.shown ++ (l'.returns ++ l'.below)) =
        (l.above ++ l.shown) ++ (l.returns ++ l.below) := by
      rw [← l'.text_eq, List.append_assoc]
      exact l.text_eq
    obtain ⟨x, hx, -⟩ := Text.parts_of_bytes_le hsame hle
    have hcount := congrArg (List.count '\n') hx
    rw [List.count_append, List.count_append, l.number_eq, l'.number_eq,
      List.count_eq_zero_of_not_mem l.unbroken] at hcount
    omega

end Line

theorem nonempty_line_iff {doc : Document} {number : Nat} :
    Nonempty (Line doc.text number) ↔ number < doc.lineCount := by
  constructor
  · rintro ⟨l⟩
    have hcount := congrArg (List.count '\n') l.text_eq
    rw [List.count_append, l.number_eq] at hcount
    rw [lineCount_eq]
    omega
  · intro h
    rw [lineCount_eq] at h
    obtain ⟨before, behind, htext, rfl⟩ := exists_count_eq (Nat.le_of_lt_succ h)
    obtain ⟨l, -⟩ := exists_line before behind
    exact ⟨htext ▸ l⟩

theorem row?_eq_none_iff {doc : Document} {number : Nat} :
    doc.row? number = none ↔ doc.lineCount ≤ number := by
  unfold row? lineCount
  rw [Option.map_eq_none_iff, List.getElem?_eq_none_iff]

/-! ## Columns -/

/-- `left` goes up to the first character boundary of a line at or behind a
column, or to the end of the line when all boundaries are before the column. -/
def Reaches (column : Nat) (line left : Text) : Prop :=
  left <+: line ∧
    ((column ≤ Text.units left ∧
        ∀ other, other <+: line → column ≤ Text.units other → Text.units left ≤ Text.units other) ∨
      (left = line ∧ ∀ other, other <+: line → Text.units other < column))

theorem exists_reaches (column : Nat) (line : Text) :
    ∃ left, Reaches column line left ∧ byteColumn column line = Text.bytes left := by
  induction line generalizing column with
  | nil =>
    refine ⟨[], ⟨List.prefix_rfl, ?_⟩, rfl⟩
    cases column with
    | zero => exact .inl ⟨Nat.le_refl 0, fun _ _ _ => Nat.zero_le _⟩
    | succ column =>
      refine .inr ⟨rfl, fun other hother => ?_⟩
      rw [List.prefix_nil.mp hother]
      exact Nat.succ_pos column
  | cons c line ih =>
    rw [byteColumn]
    split
    · rename_i hzero
      exact ⟨[], ⟨by simp, .inl ⟨by omega, fun _ _ _ => Nat.zero_le _⟩⟩, rfl⟩
    · rename_i hpos
      obtain ⟨left, ⟨hinitial, hreaches⟩, hbytes⟩ := ih (column - Text.charUnits c)
      refine ⟨c :: left, ⟨by simpa using hinitial, ?_⟩, by rw [hbytes, Text.bytes_cons]⟩
      -- the empty boundary is before the column; all others go through the first character
      have hother : ∀ other, other <+: c :: line →
          other = [] ∨
            ∃ rest, rest <+: line ∧ Text.units other = Text.charUnits c + Text.units rest := by
        intro other hpre
        rcases List.prefix_cons_iff.mp hpre with rfl | ⟨rest, rfl, hrest⟩
        · exact .inl rfl
        · exact .inr ⟨rest, hrest, rfl⟩
      have hunits : Text.units (c :: left) = Text.charUnits c + Text.units left := rfl
      have hnil : Text.units [] = 0 := rfl
      rcases hreaches with ⟨hle, hleast⟩ | ⟨rfl, hall⟩
      · refine .inl ⟨by omega, fun other hpre hcolumn => ?_⟩
        rcases hother other hpre with rfl | ⟨rest, hrest, hsum⟩
        · omega
        · have := hleast rest hrest (by omega)
          omega
      · refine .inr ⟨rfl, fun other hpre => ?_⟩
        rcases hother other hpre with rfl | ⟨rest, hrest, hsum⟩
        · omega
        · have := hall rest hrest
          omega

theorem byteColumn_le {m n : Nat} (h : m ≤ n) (line : Text) :
    byteColumn m line ≤ byteColumn n line := by
  induction line generalizing m n with
  | nil => exact Nat.le_refl 0
  | cons c line ih =>
    rw [byteColumn, byteColumn]
    split
    · exact Nat.zero_le _
    · rw [if_neg (by omega)]
      have := ih (m := m - Text.charUnits c) (n := n - Text.charUnits c) (by omega)
      omega

theorem byteColumn_le_bytes (n : Nat) (line : Text) : byteColumn n line ≤ Text.bytes line := by
  obtain ⟨left, ⟨⟨rest, rfl⟩, -⟩, hbytes⟩ := exists_reaches n line
  rw [hbytes, Text.bytes_append]
  omega

/-! ## Places of offsets, and offsets of places -/

theorem takeWhile_break_append {above left : Text}
    (habove : above = [] ∨ above.getLast? = some '\n') (hleft : '\n' ∉ left) :
    (above ++ left).reverse.takeWhile (· ≠ '\n') = left.reverse := by
  have hall : ∀ c ∈ left.reverse, decide (c ≠ '\n') = true := fun c hc =>
    decide_eq_true fun heq => hleft (heq ▸ List.mem_reverse.mp hc)
  rw [List.reverse_append, List.takeWhile_append_of_pos hall]
  rcases habove with rfl | hlast
  · simp
  · rw [← List.head?_reverse] at hlast
    cases hreverse : above.reverse with
    | nil => simp
    | cons c rest =>
      rw [hreverse] at hlast
      cases hlast
      simp

namespace Line

variable {doc : Document} {number : Nat}

/-- A boundary on a line has the line's number, and the units before it on the line. -/
theorem positionAt_eq (l : Line doc.text number) {left : Text} (hleft : left <+: l.shown) :
    doc.positionAt (Text.bytes (l.above ++ left)) = .ok ⟨number, Text.units left⟩ := by
  obtain ⟨right, hshown⟩ := hleft
  have hunbroken : '\n' ∉ left := fun hmem => l.unbroken (hshown ▸ List.mem_append_left right hmem)
  have htext : doc.text = (l.above ++ left) ++ (right ++ (l.returns ++ l.below)) := by
    have htext := l.text_eq
    rw [← hshown] at htext
    simpa using htext
  have hlines : Text.newlines (l.above ++ left) = number := by
    unfold Text.newlines
    rw [List.count_append, List.count_eq_zero_of_not_mem hunbroken, l.number_eq, Nat.add_zero]
  rw [Document.positionAt_eq htext, hlines, takeWhile_break_append l.above_ends hunbroken,
    Text.units_reverse]

/-- A place leads to the first boundary of its line at or behind its column. -/
theorem offsetAt?_eq (l : Line doc.text number) (column : Nat) :
    doc.offsetAt? ⟨number, column⟩ = some (Text.bytes l.above + byteColumn column l.shown) := by
  unfold offsetAt?
  rw [l.row?_eq]
  rfl

/-- The place of a boundary leads back to it. -/
theorem offsetAt?_units (l : Line doc.text number) {left : Text} (hleft : left <+: l.shown) :
    doc.offsetAt? ⟨number, Text.units left⟩ = some (Text.bytes (l.above ++ left)) := by
  obtain ⟨right, hshown⟩ := hleft
  have hcolumn : byteColumn (Text.units left) l.shown = Text.bytes left := by
    have happend := byteColumn_append left right 0
    rw [hshown, Nat.add_zero] at happend
    rw [happend]
    cases right <;> simp [byteColumn]
  rw [l.offsetAt?_eq, hcolumn, Text.bytes_append]

end Line

section Order

variable {doc : Document} {p q : Position} {m n : Nat}

theorem exists_line_of_offsetAt? (h : doc.offsetAt? p = some m) :
    ∃ l : Line doc.text p.line, m = Text.bytes l.above + byteColumn p.character l.shown := by
  have hrow : doc.row? p.line ≠ none := by
    intro hnone
    unfold offsetAt? at h
    rw [hnone] at h
    cases h
  obtain ⟨l⟩ := nonempty_line_iff.mpr (Nat.not_le.mp fun hle => hrow (row?_eq_none_iff.mpr hle))
  exact ⟨l, Option.some.inj (h.symm.trans (l.offsetAt?_eq p.character))⟩

theorem offsetAt?_le (hpq : p ≤ q) (hp : doc.offsetAt? p = some m) (hq : doc.offsetAt? q = some n) :
    m ≤ n := by
  obtain ⟨l, rfl⟩ := exists_line_of_offsetAt? hp
  obtain ⟨l', rfl⟩ := exists_line_of_offsetAt? hq
  rcases hpq with hlt | ⟨hline, hcharacter⟩
  · have hend := l.bytes_le_above l' hlt
    have hcolumn := byteColumn_le_bytes p.character l.shown
    rw [Text.bytes_append] at hend
    omega
  · -- both are on one line, which has one start
    obtain ⟨line, character⟩ := p
    obtain ⟨line', character'⟩ := q
    cases hline
    obtain ⟨habove, hshown⟩ := Prod.mk.inj (Option.some.inj (l.row?_eq.symm.trans l'.row?_eq))
    have hcolumn := byteColumn_le hcharacter l.shown
    rw [← habove, ← hshown]
    omega

theorem of_positionAt (h : doc.positionAt m = .ok p) :
    ∃ before behind, doc.text = before ++ behind ∧
      Text.bytes before = min m (Text.bytes doc.text) ∧
      p = ⟨Text.newlines before, Text.units (before.reverse.takeWhile (· ≠ '\n'))⟩ := by
  unfold positionAt at h
  split at h
  · cases h
  · rename_i before behind hcut
    obtain ⟨htext, hbytes⟩ := Text.append_of_cut?_eq_some hcut
    exact ⟨before, behind, htext.symm, hbytes, (Except.ok.inj h).symm⟩

theorem units_of_unbroken (before : Text) {x : Text} (h : '\n' ∉ x) :
    Text.units ((before ++ x).reverse.takeWhile (· ≠ '\n')) =
      Text.units x + Text.units (before.reverse.takeWhile (· ≠ '\n')) := by
  have hall : ∀ c ∈ x.reverse, decide (c ≠ '\n') = true := fun c hc =>
    decide_eq_true fun heq => h (heq ▸ List.mem_reverse.mp hc)
  rw [List.reverse_append, List.takeWhile_append_of_pos hall, Text.units_append,
    Text.units_reverse]

/-- A larger offset has no earlier place. -/
theorem positionAt_le (hmn : m ≤ n) (hp : doc.positionAt m = .ok p)
    (hq : doc.positionAt n = .ok q) : p ≤ q := by
  obtain ⟨before, behind, htext, hbytes, rfl⟩ := of_positionAt hp
  obtain ⟨before', behind', htext', hbytes', rfl⟩ := of_positionAt hq
  obtain ⟨x, rfl, -⟩ := Text.parts_of_bytes_le (htext.symm.trans htext') (by omega)
  have hlines : Text.newlines (before ++ x) = Text.newlines before + x.count '\n' :=
    List.count_append
  by_cases hbreak : '\n' ∈ x
  · left
    have hpos := List.count_pos_iff.mpr hbreak
    simp only [hlines]
    omega
  · right
    simp only [hlines, List.count_eq_zero_of_not_mem hbreak, units_of_unbroken before hbreak]
    omega

theorem positionAt_ne (hmn : m < n) (hn : n ≤ Text.bytes doc.text) (hp : doc.positionAt m = .ok p)
    (hq : doc.positionAt n = .ok q) : p ≠ q := by
  obtain ⟨before, behind, htext, hbytes, rfl⟩ := of_positionAt hp
  obtain ⟨before', behind', htext', hbytes', rfl⟩ := of_positionAt hq
  obtain ⟨x, rfl, -⟩ := Text.parts_of_bytes_le (htext.symm.trans htext') (by omega)
  rw [Text.bytes_append] at hbytes'
  have hne : x ≠ [] := by
    rintro rfl
    rw [Text.bytes_nil] at hbytes'
    omega
  intro heq
  obtain ⟨hlines, hunits⟩ := Position.mk.inj heq
  by_cases hbreak : '\n' ∈ x
  · -- the later one has more line breaks before it
    have hpos := List.count_pos_iff.mpr hbreak
    simp only [Text.newlines, List.count_append] at hlines
    omega
  · -- both are on one line, and the later one has more units before it
    obtain ⟨c, rest, rfl⟩ := List.exists_cons_of_ne_nil hne
    rw [units_of_unbroken before hbreak] at hunits
    have hpos := Text.charUnits_pos c
    have hcons : Text.units (c :: rest) = Text.charUnits c + Text.units rest := rfl
    omega

theorem positionAt_le_bytes (h : doc.positionAt m = .ok p) :
    p.line ≤ Text.bytes doc.text ∧ p.character ≤ Text.bytes doc.text := by
  obtain ⟨before, behind, htext, hbytes, rfl⟩ := of_positionAt h
  have hle : Text.bytes before ≤ Text.bytes doc.text := by omega
  constructor
  · exact Nat.le_trans (Nat.le_trans List.count_le_length (Text.length_le_bytes before)) hle
  · have hparts := congrArg Text.units
      (List.takeWhile_append_dropWhile (p := (· ≠ '\n')) (l := before.reverse))
    rw [Text.units_append, Text.units_reverse] at hparts
    have hunits := Text.units_le_bytes before
    simp only
    omega

theorem exists_fault_iff : (∃ fault, doc.positionAt m = .error fault) ↔ Text.Inside m doc.text := by
  have hcut : (∃ fault, doc.positionAt m = .error fault) ↔
      Text.cut? (min m (Text.bytes doc.text)) doc.text = none := by
    unfold positionAt
    split
    · rename_i hnone
      exact ⟨fun _ => hnone, fun _ => ⟨_, rfl⟩⟩
    · rename_i hsome
      simp [hsome]
  rw [hcut]
  constructor
  · intro hnone
    obtain ⟨before, c, behind, htext, hfrom, hto⟩ := Text.inside_of_cut? (by omega) hnone
    have hlength := congrArg Text.bytes htext
    rw [Text.bytes_append, Text.bytes_cons] at hlength
    exact ⟨before, c, behind, htext, by omega, by omega⟩
  · rintro ⟨before, c, behind, htext, hfrom, hto⟩
    have hlength := congrArg Text.bytes htext
    rw [Text.bytes_append, Text.bytes_cons] at hlength
    exact Text.cut?_of_inside ⟨before, c, behind, htext, by omega, by omega⟩

end Order

/-- **Places and offsets lead to one another.** Every character boundary is on a
line, and up to the carriage returns at the line's end its place leads back to
it. A place on a line leads to the first boundary at or behind its column, or to
the end of the line if there is none, and this boundary is named by its own line
and column. Only a place on a line that does not exist has no offset. Both ways
keep the order, only an offset inside a character has no place, and no line or
column is larger than the text is long. -/
theorem positions_and_offsets (doc : Document) :
    (∀ before behind, doc.text = before ++ behind →
      ∃ (l : Line doc.text (before.count '\n')) (left : Text),
        before = l.above ++ left ∧ left <+: l.shown ++ l.returns) ∧
    (∀ number (l : Line doc.text number) left, left <+: l.shown →
      ∃ p, doc.positionAt (Text.bytes (l.above ++ left)) = .ok p ∧
        doc.offsetAt? p = some (Text.bytes (l.above ++ left))) ∧
    (∀ p (l : Line doc.text p.line), ∃ left, Reaches p.character l.shown left ∧
      doc.offsetAt? p = some (Text.bytes (l.above ++ left)) ∧
      doc.positionAt (Text.bytes (l.above ++ left)) = .ok ⟨p.line, Text.units left⟩) ∧
    (∀ p, doc.offsetAt? p = none ↔ ¬ Nonempty (Line doc.text p.line)) ∧
    (∀ number, Nonempty (Line doc.text number) ↔ number ≤ doc.text.count '\n') ∧
    (∀ p q m n, p ≤ q → doc.offsetAt? p = some m → doc.offsetAt? q = some n → m ≤ n) ∧
    (∀ m n p q, m ≤ n → doc.positionAt m = .ok p → doc.positionAt n = .ok q → p ≤ q) ∧
    (∀ m, (∃ fault, doc.positionAt m = .error fault) ↔ Text.Inside m doc.text) ∧
    (∀ m p, doc.positionAt m = .ok p →
      p.line ≤ Text.bytes doc.text ∧ p.character ≤ Text.bytes doc.text) := by
  refine ⟨fun before behind htext => ?on, fun number l left hleft => ?back, fun p l => ?reach,
    fun p => ?missing, fun number => ?lines, fun p q m n => offsetAt?_le,
    fun m n p q => positionAt_le, fun m => exists_fault_iff, fun m p => positionAt_le_bytes⟩
  case on => exact htext ▸ exists_line before behind
  case back => exact ⟨_, l.positionAt_eq hleft, l.offsetAt?_units hleft⟩
  case reach =>
    obtain ⟨left, hreaches, hbytes⟩ := exists_reaches p.character l.shown
    refine ⟨left, hreaches, ?_, l.positionAt_eq hreaches.1⟩
    rw [Text.bytes_append, ← hbytes]
    exact l.offsetAt?_eq p.character
  case missing =>
    rw [nonempty_line_iff, Nat.not_lt, ← row?_eq_none_iff]
    exact Option.map_eq_none_iff
  case lines => rw [nonempty_line_iff, lineCount_eq, Nat.lt_succ_iff]

/-- A column between the two units of a character means the boundary behind it, and
one behind the line means its end before the carriage returns. -/
example : let doc : Document := ⟨⟨[]⟩, "é😀\r\r\nx".toList, 1⟩
    doc.offsetAt? ⟨0, 2⟩ = some 6 ∧ doc.offsetAt? ⟨0, 9⟩ = some 6 ∧
      (doc.positionAt 6).toOption = some ⟨0, 3⟩ ∧ (doc.positionAt 8).toOption = some ⟨0, 5⟩ ∧
      (doc.positionAt 3).toOption = none ∧ doc.offsetAt? ⟨2, 0⟩ = none := by
  decide

end Document

end ClassLens
