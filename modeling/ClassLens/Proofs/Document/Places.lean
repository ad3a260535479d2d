import ClassLens.Document.Basic
import ClassLens.Proofs.Stylesheet.Subjects
import ClassLens.Proofs.Text.Split
/-
  Places — lines, columns and words of a document

  A document is taken apart around one line, and the line around one word.
  Everything that turns a place into offsets and offsets into places is then
  determined by the lengths of the parts.

  What is proved:
    1. `row?_eq` — a line, with its offset;
    2. `byteColumn_append`, `byteColumn_of_isPart` — the byte column of a place;
    3. `find?_wordRuns` — the word that a column touches;
    4. `positionAt_eq`, `exists_rangeOf` — offsets between characters are places;
    5. `offsetAt?_eq` — and such a place leads back to its offset.
-/

namespace ClassLens

namespace Text

theorem sizes_of_isPart {c : Char} (h : ClassName.isPart c = true) :
    c.utf8Size = 1 ∧ charUnits c = 1 := by
  have hnumber : c.toNat < 128 := by
    have hpart := Stylesheet.toNat_of_isPart h
    omega
  constructor
  · rw [Char.utf8Size_eq_one_iff, UInt32.le_iff_toNat_le]
    exact Nat.lt_succ_iff.mp hnumber
  · unfold charUnits
    rw [if_pos (by omega)]

theorem bytes_of_isPart {cs : Text} (h : ∀ c ∈ cs, ClassName.isPart c = true) :
    bytes cs = cs.length := by
  induction cs with
  | nil => rfl
  | cons c cs ih =>
    have hc := (sizes_of_isPart (h c List.mem_cons_self)).1
    have hcs := ih fun d hd => h d (List.mem_cons_of_mem c hd)
    rw [bytes_cons, hc, hcs, List.length_cons]
    omega

theorem units_of_isPart {cs : Text} (h : ∀ c ∈ cs, ClassName.isPart c = true) :
    units cs = cs.length := by
  induction cs with
  | nil => rfl
  | cons c cs ih =>
    have hc := (sizes_of_isPart (h c List.mem_cons_self)).2
    have hcs := ih fun d hd => h d (List.mem_cons_of_mem c hd)
    have hunits : units (c :: cs) = charUnits c + units cs := rfl
    rw [hunits, hc, hcs, List.length_cons]
    omega

theorem charUnits_pos (c : Char) : 0 < charUnits c := by
  unfold charUnits
  split <;> omega

theorem units_append (a b : Text) : units (a ++ b) = units a + units b := by
  induction a with
  | nil => simp [units]
  | cons c a ih => rw [List.cons_append, units, units, ih, Nat.add_assoc]

theorem units_reverse (cs : Text) : units cs.reverse = units cs := by
  induction cs with
  | nil => rfl
  | cons c cs ih =>
    rw [List.reverse_cons, units_append, ih, Nat.add_comm]
    rfl

end Text

namespace Document

/-! ## Lines -/

theorem dropReturns_parts (line : Text) : ∃ returns, line = dropReturns line ++ returns := by
  refine ⟨(line.reverse.takeWhile (· = '\r')).reverse, ?_⟩
  unfold dropReturns
  rw [← List.reverse_append, List.takeWhile_append_dropWhile, List.reverse_reverse]

theorem dropReturns_append_cons (a b : Text) {x : Char} (hx : x ≠ '\r') :
    dropReturns (a ++ x :: b) = a ++ x :: dropReturns b := by
  unfold dropReturns
  have hstop : (x :: a.reverse).dropWhile (· = '\r') = x :: a.reverse :=
    List.dropWhile_cons_of_neg (by simpa using hx)
  rw [List.reverse_append, List.reverse_cons, List.append_assoc, List.singleton_append,
    List.dropWhile_append, hstop]
  split
  · rename_i hnone
    rw [List.isEmpty_iff.mp hnone]
    simp
  · simp

theorem lineStartsFrom_getElem? {above line below : Text}
    (habove : above = [] ∨ above.getLast? = some '\n') (hline : '\n' ∉ line)
    (hbelow : below = [] ∨ below.head? = some '\n') (start : Nat) :
    (lineStartsFrom start (Text.split (· = '\n') (above ++ (line ++ below))))[above.count '\n']? =
      some (start + Text.bytes above, line) := by
  have hpiece : ∀ cs : Text, '\n' ∉ cs → ∀ c ∈ cs, decide (c = '\n') = false :=
    fun cs hcs c hc => decide_eq_false fun heq => hcs (heq ▸ hc)
  -- one line less above at a time
  induction hlength : above.length using Nat.strongRecOn generalizing above start with
  | ind n ih =>
    rcases habove with rfl | hlast
    · have hfirst : ∃ rest, Text.split (· = '\n') (line ++ below) = line :: rest := by
        rcases hbelow with rfl | hhead
        · exact ⟨[], by rw [List.append_nil, Text.split_of_forall_not (hpiece line hline)]⟩
        · cases below with
          | nil => cases hhead
          | cons c below =>
            cases hhead
            exact ⟨_, Text.split_append_cons (hpiece line hline) (decide_eq_true rfl) below⟩
      obtain ⟨rest, hsplit⟩ := hfirst
      rw [List.nil_append, hsplit]
      simp [lineStartsFrom]
    · have hbreak : '\n' ∈ above := List.mem_of_getLast? hlast
      obtain ⟨first, above', rfl, hfirst⟩ := List.eq_append_cons_of_mem hbreak
      have habove' : above' = [] ∨ above'.getLast? = some '\n' := by
        cases above' with
        | nil => exact .inl rfl
        | cons c above' => exact .inr (by simpa [List.getLast?_append] using hlast)
      have hcount : (first ++ '\n' :: above').count '\n' = above'.count '\n' + 1 := by
        simp [List.count_eq_zero_of_not_mem hfirst]
      have hshorter : above'.length < n := by
        rw [← hlength, List.length_append, List.length_cons]
        omega
      have hsize : Char.utf8Size '\n' = 1 := rfl
      rw [List.append_assoc, List.cons_append,
        Text.split_append_cons (hpiece first hfirst) (decide_eq_true rfl), hcount,
        lineStartsFrom, List.getElem?_cons_succ, ih _ hshorter habove' _ rfl]
      simp only [Text.bytes_append, Text.bytes_cons, hsize, Option.some.injEq, Prod.mk.injEq,
        and_true]
      omega

theorem row?_eq {doc : Document} {above line below : Text}
    (htext : doc.text = above ++ (line ++ below))
    (habove : above = [] ∨ above.getLast? = some '\n') (hline : '\n' ∉ line)
    (hbelow : below = [] ∨ below.head? = some '\n') :
    doc.row? (above.count '\n') = some (Text.bytes above, dropReturns line) := by
  have hrow := lineStartsFrom_getElem? habove hline hbelow 0
  rw [← htext, Nat.zero_add] at hrow
  unfold row? rows
  rw [hrow]
  rfl

/-! ## Columns -/

theorem byteColumn_append (pre cs : Text) (n : Nat) :
    byteColumn (Text.units pre + n) (pre ++ cs) = Text.bytes pre + byteColumn n cs := by
  induction pre with
  | nil => simp [Text.units]
  | cons c pre ih =>
    have hpos := Text.charUnits_pos c
    have hunits : Text.units (c :: pre) = Text.charUnits c + Text.units pre := rfl
    have hleft : Text.units (c :: pre) + n - Text.charUnits c = Text.units pre + n := by omega
    rw [List.cons_append, byteColumn, if_neg (by omega), hleft, ih, Text.bytes_cons]
    omega

theorem byteColumn_of_isPart {name : Text} (h : ∀ c ∈ name, ClassName.isPart c = true)
    (post : Text) {n : Nat} (hn : n ≤ name.length) : byteColumn n (name ++ post) = n := by
  induction name generalizing n with
  | nil =>
    obtain rfl : n = 0 := by simpa using hn
    cases post <;> rfl
  | cons c name ih =>
    obtain ⟨hsize, hunits⟩ := Text.sizes_of_isPart (h c List.mem_cons_self)
    rw [List.length_cons] at hn
    rw [List.cons_append, byteColumn]
    split
    · omega
    · rw [hsize, hunits, ih (fun d hd => h d (List.mem_cons_of_mem c hd)) (by omega)]
      omega

/-! ## Words -/

/-- A run of class name characters that nothing goes on with is found whole. -/
theorem wordRuns_name {name post : Text} (h : ∀ c ∈ name, ClassName.isPart c = true)
    (hpost : Stylesheet.Ends post) (offset run : Nat) (hrun : 0 < run + name.length) :
    ∃ later,
      wordRuns offset run (name ++ post) = (offset - run, offset + name.length) :: later := by
  induction name generalizing offset run with
  | nil =>
    have hne : run ≠ 0 := by simpa using Nat.pos_iff_ne_zero.mp hrun
    cases post with
    | nil => exact ⟨[], by simp [wordRuns, hne]⟩
    | cons c post => exact ⟨_, by simp [wordRuns, hpost c rfl, hne]; rfl⟩
  | cons c name ih =>
    have hc := h c List.mem_cons_self
    obtain ⟨later, hlater⟩ := ih (fun d hd => h d (List.mem_cons_of_mem c hd)) (offset + 1)
      (run + 1) (by omega)
    refine ⟨later, ?_⟩
    rw [List.cons_append, wordRuns, if_pos hc, hlater, List.length_cons]
    congr 2 <;> omega

/-- What lies before a character that is in no class name is not touched behind it. -/
theorem find?_wordRuns_skip {c : Char} (hc : ClassName.isPart c = false) (pre rest : Text)
    (offset run : Nat) {column : Nat} (hcolumn : offset + Text.bytes (pre ++ [c]) ≤ column) :
    ((wordRuns offset run (pre ++ c :: rest)).find? fun (a, b) => a ≤ column && column ≤ b) =
      (wordRuns (offset + Text.bytes (pre ++ [c])) 0 rest).find?
        fun (a, b) => a ≤ column && column ≤ b := by
  have hpos := Char.utf8Size_pos c
  induction pre generalizing offset run with
  | nil =>
    have hbytes : Text.bytes ([] ++ [c]) = c.utf8Size := by simp
    rw [hbytes] at hcolumn ⊢
    rw [List.nil_append, wordRuns, if_neg (by simp [hc])]
    simp only
    split
    · rfl
    · rw [List.find?_cons_of_neg]
      simp only [Bool.and_eq_true, decide_eq_true_eq, not_and]
      omega
  | cons d pre ih =>
    have hbytes : Text.bytes (d :: pre ++ [c]) = d.utf8Size + Text.bytes (pre ++ [c]) := rfl
    rw [hbytes] at hcolumn ⊢
    have hdpos := Char.utf8Size_pos d
    rw [List.cons_append, wordRuns]
    split
    · rename_i hd
      have hsize := (Text.sizes_of_isPart hd).1
      rw [ih (offset + 1) (run + 1) (by omega), hsize, Nat.add_assoc]
    · have hlater := ih (offset + d.utf8Size) 0 (by omega)
      rw [Nat.add_assoc] at hlater
      simp only
      split
      · exact hlater
      · rw [List.find?_cons_of_neg, hlater]
        simp only [Bool.and_eq_true, decide_eq_true_eq, not_and]
        omega

/-- A name between characters that are in no class name is what a column that
touches it touches. -/
theorem find?_wordRuns {pre name post : Text} {c : Char} (hc : ClassName.isPart c = false)
    (hname : ∀ d ∈ name, ClassName.isPart d = true) (hne : name ≠ [])
    (hpost : Stylesheet.Ends post) {column : Nat} (hstart : Text.bytes (pre ++ [c]) ≤ column)
    (hstop : column ≤ Text.bytes (pre ++ [c]) + name.length) :
    ((wordRuns 0 0 (pre ++ c :: (name ++ post))).find? fun (a, b) => a ≤ column && column ≤ b) =
      some (Text.bytes (pre ++ [c]), Text.bytes (pre ++ [c]) + name.length) := by
  have hlength : 0 < 0 + name.length := by
    have := List.length_pos_iff.mpr hne
    omega
  rw [find?_wordRuns_skip hc pre (name ++ post) 0 0 (by omega), Nat.zero_add]
  obtain ⟨later, hlater⟩ := wordRuns_name hname hpost (Text.bytes (pre ++ [c])) 0 hlength
  rw [Nat.sub_zero] at hlater
  rw [hlater, List.find?_cons_of_pos]
  simp only [hstart, hstop, decide_true, Bool.and_self]

/-! ## Offsets as places -/

theorem positionAt_eq {doc : Document} {before behind : Text} (h : doc.text = before ++ behind) :
    doc.positionAt (Text.bytes before) =
      .ok ⟨Text.newlines before, Text.units (before.reverse.takeWhile (· ≠ '\n'))⟩ := by
  have hmin : min (Text.bytes before) (Text.bytes doc.text) = Text.bytes before := by
    rw [h, Text.bytes_append]
    omega
  unfold positionAt
  rw [hmin, h, Text.cut?_append]

theorem not_mem_takeWhile_break (cs : Text) : '\n' ∉ cs.takeWhile (· ≠ '\n') := by
  intro hmem
  have hbreak := List.all_eq_true.mp (List.all_takeWhile (p := (· ≠ '\n')) (l := cs)) '\n' hmem
  simp at hbreak

theorem dropWhile_break (cs : Text) :
    cs.dropWhile (· ≠ '\n') = [] ∨ (cs.dropWhile (· ≠ '\n')).head? = some '\n' := by
  have hnot := List.head?_dropWhile_not (· ≠ '\n') cs
  cases hrest : cs.dropWhile (· ≠ '\n') with
  | nil => exact .inl rfl
  | cons c rest =>
    rw [hrest] at hnot
    exact .inr (by simpa using hnot)

theorem offsetAt?_eq {doc : Document} {before behind : Text} {x : Char}
    (h : doc.text = before ++ x :: behind) (hx : x ≠ '\n' ∧ x ≠ '\r') :
    doc.offsetAt? ⟨Text.newlines before, Text.units (before.reverse.takeWhile (· ≠ '\n'))⟩ =
      some (Text.bytes before) := by
  -- the line of the character, with what is above it and below it
  obtain ⟨above, habove⟩ :
      ∃ above, above = (before.reverse.dropWhile (· ≠ '\n')).reverse := ⟨_, rfl⟩
  obtain ⟨left, hleft⟩ : ∃ left, left = (before.reverse.takeWhile (· ≠ '\n')).reverse := ⟨_, rfl⟩
  have hbefore : before = above ++ left := by
    rw [habove, hleft, ← List.reverse_append, List.takeWhile_append_dropWhile,
      List.reverse_reverse]
  have hends : above = [] ∨ above.getLast? = some '\n' := by
    rw [habove, List.getLast?_reverse, List.reverse_eq_nil_iff]
    exact dropWhile_break before.reverse
  have hunbroken : '\n' ∉ left := by
    rw [hleft, List.mem_reverse]
    exact not_mem_takeWhile_break before.reverse
  have hline : '\n' ∉ left ++ x :: behind.takeWhile (· ≠ '\n') := by
    rw [List.mem_append, List.mem_cons]
    rintro (hmem | hmem | hmem)
    · exact hunbroken hmem
    · exact hx.1 hmem.symm
    · exact not_mem_takeWhile_break behind hmem
  have htext : doc.text = above ++ ((left ++ x :: behind.takeWhile (· ≠ '\n')) ++
      behind.dropWhile (· ≠ '\n')) := by
    rw [h, hbefore]
    simp
  have hbreaks : Text.newlines before = above.count '\n' := by
    unfold Text.newlines
    rw [hbefore, List.count_append, List.count_eq_zero_of_not_mem hunbroken, Nat.add_zero]
  have hunits : Text.units (before.reverse.takeWhile (· ≠ '\n')) = Text.units left + 0 := by
    rw [hleft, Nat.add_zero, Text.units_reverse]
  unfold offsetAt?
  rw [hbreaks, row?_eq htext hends hline (dropWhile_break behind), hunits, Option.map_some]
  simp only [Option.some.injEq]
  rw [dropReturns_append_cons _ _ hx.2, byteColumn_append, byteColumn, if_pos rfl, hbefore,
    Text.bytes_append, Nat.add_zero]

theorem exists_rangeOf {doc : Document} {a b c : Text} (h : doc.text = a ++ (b ++ c)) :
    ∃ range, doc.rangeOf (Text.bytes a) (Text.bytes a + Text.bytes b) = .ok range := by
  have hstop : doc.text = (a ++ b) ++ c := by rw [h, List.append_assoc]
  unfold rangeOf
  rw [positionAt_eq h, ← Text.bytes_append, positionAt_eq hstop]
  exact ⟨_, rfl⟩

end Document

end ClassLens
