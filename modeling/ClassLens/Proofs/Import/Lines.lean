import ClassLens.Proofs.Import.Resolve
import ClassLens.Proofs.Stylesheet.Subjects
/-
  Lines — the imports of a text that has one of them on a line

  A component is written line by line, and an import stands on a line of its
  own, with whatever else there is on that line. On such a text the scan finds
  every import with the number of its line: one that is no stylesheet hides
  none behind it, and none reaches into the next line.

  What this holds:
    1. `Line`, a line with an import or without one, and its text;
    2. `Followed`, which paths are followed, and `Line.statement?`, what a line
       amounts to: read off the line, with no scanning;
    3. `Import.importAt?_eq` — reading an import that stands at the front;
    4. `scanFrom_line` — what one line adds, and `scanFrom_lines`, the whole text;
    5. `statements_line_by_line` — the statements and the stylesheets of a text.
-/

namespace ClassLens

namespace ImportScan

/-- The word that an import begins with. -/
def keyword : Text := "import".toList

/-- The text has spaces and tabs only. -/
def Narrow (cs : Text) : Prop := ∀ c ∈ cs, c = ' ' ∨ c = '\t'

instance (cs : Text) : Decidable (Narrow cs) := List.decidableBAll _ cs

/-- The text can stand in an ASCII identifier behind its start. -/
def GoesOn (cs : Text) : Prop := ∀ c ∈ cs, c.isAlphanum ∨ c = '_' ∨ c = '$'

instance (cs : Text) : Decidable (GoesOn cs) := List.decidableBAll _ cs

/-- The text has no quote and no line break. -/
def Unquoted (cs : Text) : Prop := ∀ c ∈ cs, c ≠ '"' ∧ c ≠ '\'' ∧ c ≠ '\n'

instance (cs : Text) : Decidable (Unquoted cs) := List.decidableBAll _ cs

/-- At least one space or tab. -/
structure Gap where
  text : Text
  ne_nil : text ≠ [] := by decide
  narrow : Narrow text := by decide

/-- An ASCII identifier. -/
structure Name where
  first : Char
  rest : Text
  starts : first.isAlpha ∨ first = '_' ∨ first = '$' := by decide
  goes_on : GoesOn rest := by decide

/-- What stands between the keyword and the path. -/
inductive Clause where
  /-- The path alone is imported. -/
  | bare (gap : Gap)
  /-- ` name from `, with the gaps in front of each word and of the path. -/
  | named (gap : Gap) (name : Name) (gapFrom gapPath : Gap)
  /-- ` * as name from `, with the gaps in front of each word and of the path. -/
  | whole (gap gapAs gapName : Gap) (name : Name) (gapFrom gapPath : Gap)

/-- A line with an import on it, between whatever stands before and behind. -/
structure Import where
  before : Text
  clause : Clause
  quote : Char
  path : Text
  behind : Text
  is_quote : quote = '"' ∨ quote = '\'' := by decide
  unquoted : Unquoted path := by decide
  one_line : '\n' ∉ before ∧ '\n' ∉ behind := by decide

/-! ## The text of a line -/

def Name.text (n : Name) : Text := n.first :: n.rest

/-- The gap behind the keyword. -/
def Clause.gap : Clause → Gap
  | .bare gap => gap
  | .named gap _ _ _ => gap
  | .whole gap _ _ _ _ _ => gap

/-- The words in front of the path, with the gaps behind them. -/
def Clause.words : Clause → Text
  | .bare _ => []
  | .named _ name gapFrom gapPath =>
    name.text ++ (gapFrom.text ++ ("from".toList ++ gapPath.text))
  | .whole _ gapAs gapName name gapFrom gapPath =>
    '*' :: (gapAs.text ++ ("as".toList ++ (gapName.text ++
      (name.text ++ (gapFrom.text ++ ("from".toList ++ gapPath.text))))))

/-- The text from the first quote of an import to the second. -/
def Import.quoted (i : Import) : Text := i.quote :: (i.path ++ [i.quote])

/-- The text from behind the keyword to the second quote. -/
def Import.text (i : Import) : Text := i.clause.gap.text ++ (i.clause.words ++ i.quoted)

/-- A line of a component, which holds the keyword once if it holds an import. -/
inductive Line where
  | other (text : Text) (one_line : '\n' ∉ text) (free : ¬ keyword <:+: text)
  | statement (i : Import) (before_free : ¬ keyword <:+: i.before)
      (behind_free : ¬ keyword <:+: i.text ++ i.behind)

def Line.text : Line → Text
  | .other text _ _ => text
  | .statement i _ _ => i.before ++ (keyword ++ (i.text ++ i.behind))

/-! ## What a line amounts to -/

/-- A path that is followed: a stylesheet of the component's own directory. -/
structure Followed (written : Text) : Prop where
  stylesheet : cssSuffix <:+ written ∧ written ≠ cssSuffix
  same_directory : "./".toList <+: written
  no_parent : ¬ "../".toList <:+: written

theorem isStylesheetPath_iff {written : Text} :
    isStylesheetPath written = true ↔ cssSuffix <:+ written ∧ written ≠ cssSuffix := by
  unfold isStylesheetPath
  rw [Bool.and_eq_true, decide_eq_true_eq, List.isSuffixOf_iff_suffix, and_comm]
  refine and_congr_right fun hsuffix => ⟨?_, ?_⟩
  · rintro hlength rfl
    exact absurd hlength (Nat.lt_irrefl _)
  · intro hne
    refine Nat.lt_of_le_of_ne hsuffix.length_le fun hlength => hne ?_
    exact (hsuffix.eq_of_length hlength).symm

theorem followed_iff {written : Text} :
    Followed written ↔ isStylesheetPath written = true ∧
      ImportStatement.isSameDirectory written = true := by
  rw [isStylesheetPath_iff, ImportStatement.isSameDirectory_iff, Text.startsWith,
    List.isPrefixOf_iff_prefix, Text.contains_eq_false_iff]
  exact ⟨fun h => ⟨h.stylesheet, h.same_directory, h.no_parent⟩, fun h => ⟨h.1, h.2.1, h.2.2⟩⟩

instance (written : Text) : Decidable (Followed written) :=
  decidable_of_iff _ followed_iff.symm

/-- The import statement on the line with the given number, if it is followed
and there is a file where it leads. -/
def Line.statement? (disk : Disk) (component : Path) (number : Nat) :
    Line → Option ImportStatement
  | .other _ _ _ => none
  | .statement i _ _ =>
    match ImportStatement.target? component i.path with
    | none => none
    | some target =>
      if Followed i.path ∧ disk.isFile target.normalize = true then
        some ⟨i.path, target.normalize, component, number⟩
      else none

/-! ## Reading an import at the front -/

theorem blanks?_gap (g : Gap) {more : Text} (hmore : ∀ c ∈ more.head?, Text.isBlank c = false) :
    blanks? (g.text ++ more) = some more := by
  have hblank : ∀ c ∈ g.text, Text.isBlank c = true := by
    intro c hc
    rcases g.narrow c hc with rfl | rfl <;> rfl
  obtain ⟨c, rest, htext⟩ := List.exists_cons_of_ne_nil g.ne_nil
  rw [htext] at hblank ⊢
  have hrest : Text.trimStart (rest ++ more) = more := by
    unfold Text.trimStart
    rw [List.dropWhile_append_of_pos fun d hd => hblank d (List.mem_cons_of_mem c hd)]
    cases more with
    | nil => rfl
    | cons d more => rw [List.dropWhile_cons_of_neg (by simp [hmore d rfl])]
  simp [blanks?, hblank c List.mem_cons_self, hrest]

theorem word?_append (w more : Text) : word? w (w ++ more) = some more := by
  have hstart : Text.startsWith w (w ++ more) = true := Text.startsWith_iff.mpr ⟨more, rfl⟩
  simp [word?, hstart]

theorem Name.isWord_of_mem (n : Name) {c : Char} (hc : c ∈ n.rest) :
    (Text.isWord c || decide (c = '$')) = true := by
  rcases n.goes_on c hc with hpart | rfl | rfl
  · have hascii : c.toNat < 0x80 := by
      have hpart' : ClassName.isPart c = true := by simp [ClassName.isPart, hpart]
      have hranges := Stylesheet.toNat_of_isPart hpart'
      omega
    simp [Text.isWord, hascii, hpart]
  · rfl
  · rfl

theorem identifier?_name (n : Name) (g : Gap) (more : Text) :
    identifier? (n.text ++ (g.text ++ more)) = some (g.text ++ more) := by
  obtain ⟨c, rest, htext⟩ := List.exists_cons_of_ne_nil g.ne_nil
  have hstop : ¬ (Text.isWord c || decide (c = '$')) = true := by
    rcases g.narrow c (htext ▸ List.mem_cons_self) with rfl | rfl <;> decide
  have hdrop : (n.rest ++ (g.text ++ more)).dropWhile (fun c => Text.isWord c || decide (c = '$')) =
      g.text ++ more := by
    rw [List.dropWhile_append_of_pos fun d hd => n.isWord_of_mem hd, htext, List.cons_append,
      List.dropWhile_cons, if_neg hstop]
  unfold Name.text
  rw [List.cons_append, identifier?, if_pos n.starts]
  exact congrArg some hdrop

theorem clause?_of_binding? {cs more : Text} {gapFrom gapPath : Gap}
    (h : binding? cs = some (gapFrom.text ++ ("from".toList ++ (gapPath.text ++ more))))
    (hmore : ∀ c ∈ more.head?, Text.isBlank c = false) : clause? cs = some more := by
  have hfrom : ∀ c ∈ ("from".toList ++ (gapPath.text ++ more)).head?, Text.isBlank c = false := by
    intro c hc
    obtain rfl : 'f' = c := Option.some.inj hc
    rfl
  have hword : word? ['f', 'r', 'o', 'm'] ("from".toList ++ (gapPath.text ++ more)) =
      some (gapPath.text ++ more) := word?_append "from".toList _
  unfold clause?
  simp only [Option.bind_eq_bind]
  rw [h, Option.bind_some, blanks?_gap gapFrom hfrom, Option.bind_some, hword, Option.bind_some,
    blanks?_gap gapPath hmore]

theorem binding?_quote {q : Char} (hq : q = '"' ∨ q = '\'') (more : Text) :
    binding? (q :: more) = none := by
  rcases hq with rfl | rfl <;> rfl

theorem binding?_name (n : Name) (more : Text) :
    binding? (n.text ++ more) = identifier? (n.text ++ more) := by
  have hstar : n.first ≠ '*' := by
    intro heq
    have hstarts := n.starts
    rw [heq] at hstarts
    exact absurd hstarts (by decide)
  unfold binding? Name.text
  split
  · rename_i rest heq
    exact absurd (List.cons.inj heq).1 hstar
  · rfl

theorem Name.head_not_blank (n : Name) (more : Text) :
    ∀ c ∈ (n.text ++ more).head?, Text.isBlank c = false := by
  intro c hc
  obtain rfl : n.first = c := Option.some.inj hc
  rcases n.starts with halpha | hfirst | hfirst
  · exact Stylesheet.isBlank_of_isPart (by simp [ClassName.isPart, Char.isAlphanum, halpha])
  · rw [hfirst]
    rfl
  · rw [hfirst]
    rfl

theorem binding?_whole (gapAs gapName : Gap) (name : Name) (gapFrom : Gap) (more : Text) :
    binding? ('*' :: (gapAs.text ++ ("as".toList ++ (gapName.text ++ (name.text ++
      (gapFrom.text ++ more)))))) = some (gapFrom.text ++ more) := by
  have has : ∀ c ∈ ("as".toList ++ (gapName.text ++ (name.text ++ (gapFrom.text ++ more)))).head?,
      Text.isBlank c = false := by
    intro c hc
    obtain rfl : 'a' = c := Option.some.inj hc
    rfl
  have hword : word? ['a', 's'] ("as".toList ++ (gapName.text ++ (name.text ++
      (gapFrom.text ++ more)))) = some (gapName.text ++ (name.text ++ (gapFrom.text ++ more))) :=
    word?_append "as".toList _
  unfold binding?
  simp only [Option.bind_eq_bind]
  rw [blanks?_gap gapAs has, Option.bind_some, hword, Option.bind_some,
    blanks?_gap gapName (name.head_not_blank _), Option.bind_some, identifier?_name]

theorem Import.head_not_blank (i : Import) (more : Text) :
    ∀ c ∈ (i.quoted ++ more).head?, Text.isBlank c = false := by
  intro c hc
  obtain rfl : i.quote = c := Option.some.inj hc
  rcases i.is_quote with hquote | hquote <;> rw [hquote] <;> rfl

/-- The path runs to the second quote, and counts when it is that of a stylesheet. -/
theorem Import.quotedPath?_eq (i : Import) (more : Text) :
    quotedPath? (i.quoted ++ more) =
      if isStylesheetPath i.path then some (i.path, more) else none := by
  have hquote : isQuote i.quote = true := by
    rcases i.is_quote with hquote | hquote <;> rw [hquote] <;> rfl
  have hpath : ∀ c ∈ i.path, (!isQuote c && decide (c ≠ '\n')) = true := by
    intro c hc
    obtain ⟨hdouble, hsingle, hbreak⟩ := i.unquoted c hc
    simp [isQuote, hdouble, hsingle, hbreak]
  have htake : (i.path ++ i.quote :: more).takeWhile (fun c => !isQuote c && decide (c ≠ '\n')) =
      i.path := by
    rw [List.takeWhile_append_of_pos hpath, List.takeWhile_cons, hquote]
    simp
  have htext : i.quoted ++ more = i.quote :: (i.path ++ i.quote :: more) := by
    simp [Import.quoted]
  rw [htext, quotedPath?]
  simp only [htake, List.drop_left, hquote, true_and]

theorem Import.blanks?_eq (i : Import) (more : Text) :
    blanks? (i.clause.gap.text ++ (i.clause.words ++ (i.quoted ++ more))) =
      some (i.clause.words ++ (i.quoted ++ more)) := by
  apply blanks?_gap
  cases i.clause with
  | bare gap => exact i.head_not_blank more
  | named gap name gapFrom gapPath =>
    simp only [Clause.words, List.append_assoc]
    exact name.head_not_blank _
  | whole gap gapAs gapName name gapFrom gapPath =>
    intro c hc
    obtain rfl : '*' = c := Option.some.inj hc
    rfl

theorem Import.clause?_eq (i : Import) (more : Text) :
    (clause? (i.clause.words ++ (i.quoted ++ more))).getD (i.clause.words ++ (i.quoted ++ more)) =
      i.quoted ++ more := by
  have hquoted := i.head_not_blank more
  cases i.clause with
  | bare gap =>
    have hnone : binding? (i.quoted ++ more) = none := binding?_quote i.is_quote _
    have hclause : clause? (i.quoted ++ more) = none := by
      unfold clause?
      rw [hnone]
      rfl
    simp only [Clause.words, List.nil_append, hclause, Option.getD_none]
  | named gap name gapFrom gapPath =>
    simp only [Clause.words, List.append_assoc]
    rw [clause?_of_binding?
      ((binding?_name name _).trans (identifier?_name name gapFrom _)) hquoted]
    rfl
  | whole gap gapAs gapName name gapFrom gapPath =>
    simp only [Clause.words, List.append_assoc, List.cons_append]
    rw [clause?_of_binding? (binding?_whole gapAs gapName name gapFrom _) hquoted]
    rfl

/-- An import at the front of a text is read to its end, if it is one of a stylesheet. -/
theorem Import.importAt?_eq (i : Import) (more : Text) :
    importAt? (keyword ++ (i.text ++ more)) =
      if isStylesheetPath i.path then some (i.path, more) else none := by
  have htext : i.text ++ more =
      i.clause.gap.text ++ (i.clause.words ++ (i.quoted ++ more)) := by
    simp only [Import.text, List.append_assoc]
  have hread : importAt? (keyword ++ (i.text ++ more)) =
      quotedPath? ((clause? (i.clause.words ++ (i.quoted ++ more))).getD
        (i.clause.words ++ (i.quoted ++ more))) := by
    unfold importAt?
    simp only [Option.bind_eq_bind]
    rw [show "import".toList = keyword from rfl, word?_append, Option.bind_some, htext,
      i.blanks?_eq, Option.bind_some]
    cases clause? (i.clause.words ++ (i.quoted ++ more)) <;> rfl
  rw [hread, i.clause?_eq, i.quotedPath?_eq]

/-! ## Scanning line by line -/

theorem importAt?_of_not_keyword {cs : Text} (h : ¬ keyword <+: cs) : importAt? cs = none := by
  have hstart : Text.startsWith keyword cs = false := by
    unfold Text.startsWith
    rw [Bool.eq_false_iff, Ne, List.isPrefixOf_iff_prefix]
    exact h
  unfold importAt?
  rw [show "import".toList = keyword from rfl]
  simp [word?, hstart]

/-- The letters of the keyword are all different, so a text without the keyword
has none that runs over its end when what follows begins with the keyword again
or with a line break. -/
theorem not_keyword_append {a more : Text} (ha : a ≠ []) (hfree : ¬ keyword <+: a)
    (hmore : ∀ c ∈ more.head?, c ∉ keyword.tail) : ¬ keyword <+: a ++ more := by
  intro hstart
  rcases List.prefix_or_prefix_of_prefix hstart (List.prefix_append a more) with hwhole | ⟨k, hk⟩
  · exact hfree hwhole
  · cases k with
    | nil =>
      rw [List.append_nil] at hk
      exact hfree (hk ▸ List.prefix_rfl)
    | cons c k =>
      -- the keyword goes on with the first character that follows
      rw [← hk, List.prefix_append_right_inj] at hstart
      obtain ⟨rest, rfl⟩ := hstart
      apply hmore c rfl
      rw [← hk]
      obtain ⟨d, a, rfl⟩ := List.exists_cons_of_ne_nil ha
      simp

theorem scanFrom_free {a more : Text} (line : Nat) (hline : '\n' ∉ a) (hfree : ¬ keyword <:+: a)
    (hmore : ∀ c ∈ more.head?, c ∉ keyword.tail) :
    scanFrom line 0 (a ++ more) = scanFrom line 0 more := by
  induction a with
  | nil => rfl
  | cons c a ih =>
    rw [List.mem_cons, not_or] at hline
    rw [List.infix_cons_iff, not_or] at hfree
    have hnone : importAt? (c :: (a ++ more)) = none :=
      importAt?_of_not_keyword (not_keyword_append (List.cons_ne_nil c a) hfree.1 hmore)
    rw [List.cons_append, scanFrom, hnone, if_neg fun heq => hline.1 heq.symm]
    exact ih hline.2 hfree.2

theorem scanFrom_skip {a : Text} (line : Nat) (hline : '\n' ∉ a) (more : Text) :
    scanFrom line a.length (a ++ more) = scanFrom line 0 more := by
  induction a with
  | nil => rfl
  | cons c a ih =>
    rw [List.mem_cons, not_or] at hline
    rw [List.cons_append, List.length_cons, scanFrom, if_neg fun heq => hline.1 heq.symm]
    exact ih hline.2

/-- What the scan finds on the line with the given number. -/
def Line.found? (number : Nat) : Line → Option Found
  | .other _ _ _ => none
  | .statement i _ _ => if isStylesheetPath i.path then some ⟨i.path, number⟩ else none

theorem Gap.one_line (g : Gap) : '\n' ∉ g.text := by
  intro h
  have hnarrow := g.narrow _ h
  exact absurd hnarrow (by decide)

theorem Name.one_line (n : Name) : '\n' ∉ n.text := by
  intro h
  rcases List.mem_cons.mp h with hfirst | hrest
  · have hstarts := n.starts
    rw [← hfirst] at hstarts
    exact absurd hstarts (by decide)
  · exact absurd (n.goes_on _ hrest) (by decide)

theorem Import.one_line_text (i : Import) : '\n' ∉ i.text := by
  have hpath : '\n' ∉ i.path := fun h => (i.unquoted _ h).2.2 rfl
  have hquote : '\n' ≠ i.quote := by
    rcases i.is_quote with hquote | hquote <;> rw [hquote] <;> decide
  have hwords : '\n' ∉ i.clause.words := by
    cases i.clause with
    | bare gap => simp [Clause.words]
    | named gap name gapFrom gapPath =>
      simp [Clause.words, name.one_line, gapFrom.one_line, gapPath.one_line]
    | whole gap gapAs gapName name gapFrom gapPath =>
      simp [Clause.words, gapAs.one_line, gapName.one_line, name.one_line, gapFrom.one_line,
        gapPath.one_line]
  simp [Import.text, Import.quoted, i.clause.gap.one_line, hwords, hpath, hquote]

/-- Behind its first letter the keyword does not begin anew. -/
theorem not_keyword_infix_tail {cs : Text} (h : ¬ keyword <:+: cs) :
    ¬ keyword <:+: keyword.tail ++ cs := by
  have hletter : ∀ (c : Char) (rest : Text), c ≠ 'i' → ¬ keyword <:+: rest →
      ¬ keyword <:+: c :: rest := by
    intro c rest hc hrest hinfix
    rcases List.infix_cons_iff.mp hinfix with hstart | hlater
    · exact hc (List.cons_prefix_cons.mp hstart).1.symm
    · exact hrest hlater
  show ¬ keyword <:+: 'm' :: 'p' :: 'o' :: 'r' :: 't' :: cs
  iterate 5 apply hletter _ _ (by decide)
  exact h

/-- An import is found or passed over, and the scan goes on with the next line. -/
theorem scanFrom_import (i : Import) (number : Nat) {more : Text}
    (behind_free : ¬ keyword <:+: i.text ++ i.behind)
    (hmore : ∀ c ∈ more.head?, c ∉ keyword.tail) :
    scanFrom number 0 (keyword ++ (i.text ++ (i.behind ++ more))) =
      (if isStylesheetPath i.path then [⟨i.path, number⟩] else []) ++ scanFrom number 0 more := by
  have hline : '\n' ∉ keyword.tail ++ i.text := by
    rw [List.mem_append, not_or]
    exact ⟨by decide, i.one_line_text⟩
  have hread : importAt? ('i' :: (keyword.tail ++ (i.text ++ (i.behind ++ more)))) =
      if isStylesheetPath i.path then some (i.path, i.behind ++ more) else none :=
    i.importAt?_eq (i.behind ++ more)
  show scanFrom number 0 ('i' :: (keyword.tail ++ (i.text ++ (i.behind ++ more)))) = _
  rw [scanFrom, hread, if_neg (by decide : ¬ 'i' = '\n')]
  by_cases hcss : isStylesheetPath i.path = true
  · -- the scan goes on behind the second quote
    have hbehind : ¬ keyword <:+: i.behind := fun h =>
      behind_free (h.trans (List.suffix_append _ _).isInfix)
    have hskip : (keyword.tail ++ (i.text ++ (i.behind ++ more))).length -
        (i.behind ++ more).length = (keyword.tail ++ i.text).length := by
      simp only [List.length_append]
      omega
    simp only [hcss, if_true]
    rw [hskip, ← List.append_assoc, scanFrom_skip number hline,
      scanFrom_free number i.one_line.2 hbehind hmore]
    rfl
  · -- the scan goes on behind the first letter, and finds no other keyword on the line
    have hrest : '\n' ∉ keyword.tail ++ (i.text ++ i.behind) := by
      rw [← List.append_assoc, List.mem_append, not_or]
      exact ⟨hline, i.one_line.2⟩
    simp only [hcss, if_false, Bool.false_eq_true, List.nil_append]
    rw [← List.append_assoc i.text, ← List.append_assoc,
      scanFrom_free number hrest (not_keyword_infix_tail behind_free) hmore]

/-- One line adds what is on it, and the scan goes on behind it. -/
theorem scanFrom_line (l : Line) (number : Nat) {more : Text}
    (hmore : ∀ c ∈ more.head?, c = '\n') :
    scanFrom number 0 (l.text ++ more) = (l.found? number).toList ++ scanFrom number 0 more := by
  have hbreak : ∀ c ∈ more.head?, c ∉ keyword.tail := by
    intro c hc
    rw [hmore c hc]
    decide
  cases l with
  | other text one_line free => exact scanFrom_free number one_line free hbreak
  | statement i before_free behind_free =>
    have hkeyword : ∀ c ∈ (keyword ++ (i.text ++ (i.behind ++ more))).head?,
        c ∉ keyword.tail := by
      intro c hc
      obtain rfl : 'i' = c := Option.some.inj hc
      decide
    simp only [Line.text, Line.found?, List.append_assoc]
    rw [scanFrom_free number i.one_line.1 before_free hkeyword,
      scanFrom_import i number behind_free hbreak]
    split <;> rfl

theorem scanFrom_lines (lines : List Line) (number : Nat) :
    scanFrom number 0 (Text.join ['\n'] (lines.map Line.text)) =
      (lines.zipIdx number).filterMap fun l => l.1.found? l.2 := by
  induction lines generalizing number with
  | nil => rfl
  | cons l lines ih =>
    have hadds : ∀ rest : List (Line × Nat),
        ((l, number) :: rest).filterMap (fun l => l.1.found? l.2) =
          (l.found? number).toList ++ rest.filterMap fun l => l.1.found? l.2 := by
      intro rest
      cases hfound : l.found? number <;> simp [hfound]
    rw [List.zipIdx_cons, hadds]
    cases lines with
    | nil =>
      have hline : scanFrom number 0 (l.text ++ []) =
          (l.found? number).toList ++ scanFrom number 0 [] := scanFrom_line l number (by simp)
      rwa [List.append_nil] at hline
    | cons next lines =>
      -- the line break behind the line begins the next number
      have hjoin : Text.join ['\n'] ((l :: next :: lines).map Line.text) =
          l.text ++ '\n' :: Text.join ['\n'] ((next :: lines).map Line.text) := by
        simp [Text.join]
      rw [hjoin, scanFrom_line l number (by simp), ← ih]
      rfl

/-! ## The statements of a text -/

theorem Line.statement?_eq (disk : Disk) (component : Path) (number : Nat) (l : Line) :
    ((l.found? number).bind fun found =>
      (resolveImport disk component found.path).map fun resolved =>
        ⟨found.path, resolved, component, found.line⟩) = l.statement? disk component number := by
  cases l with
  | other text one_line free => rfl
  | statement i before_free behind_free =>
    unfold Line.found? Line.statement? ImportStatement.target? resolveImport
    cases hcss : isStylesheetPath i.path with
    | false =>
      have hother : ¬ Followed i.path := fun h => by simp [followed_iff, hcss] at h
      cases component.parent? <;> simp [hcss, hother]
    | true =>
      cases hsame : ImportStatement.isSameDirectory i.path with
      | false =>
        have helsewhere : ¬ Followed i.path := fun h => by simp [followed_iff, hsame] at h
        cases component.parent? <;> simp [hsame, helsewhere]
      | true =>
        have hfollowed : Followed i.path := followed_iff.mpr ⟨hcss, hsame⟩
        cases component.parent? with
        | none => simp
        | some directory =>
          simp only [hcss, hsame, hfollowed, if_true, Bool.not_true, Bool.false_eq_true, if_false,
            Option.bind_some, Option.map_some, true_and]
          split <;> rfl

end ImportScan

open ImportScan in
/-- The statements of a text that is written line by line are those of its lines, in
order and with their numbers, and its stylesheets are what they lead to, each once. -/
theorem statements_line_by_line (disk : Disk) (lines : List Line) {component : Path}
    (hcomponent : component.isAbsolute = true) :
    importStatements disk (Text.join ['\n'] (lines.map Line.text)) component =
        ((lines.zipIdx 1).filterMap fun l => l.1.statement? disk component l.2) ∧
      importPaths disk (Text.join ['\n'] (lines.map Line.text)) component =
        (((lines.zipIdx 1).filterMap fun l => l.1.statement? disk component l.2).map
          (·.resolved)).eraseDups := by
  have hstatements : importStatements disk (Text.join ['\n'] (lines.map Line.text)) component =
      (lines.zipIdx 1).filterMap fun l => l.1.statement? disk component l.2 := by
    rw [importStatements_eq disk _ hcomponent, scan, scanFrom_lines, List.filterMap_filterMap]
    exact List.filterMap_congr fun l _ => l.1.statement?_eq disk component l.2
  refine ⟨hstatements, ?_⟩
  rw [importPaths, distinctPaths_eq, hstatements]

namespace ImportScan.Sample

def component : Path := ⟨[0x2F, 0x63]⟩
def sheet : Path := ⟨[0x2F, 0x61, 0x2E, 0x63, 0x73, 0x73]⟩
def disk : Disk := Disk.empty.write sheet (.text []) 1

def space : Gap where text := [' ']

/-- `import r from 'react'`, which is no stylesheet. -/
def other : Import where
  before := []
  clause := .named space ⟨'r', [], by decide, by decide⟩ space space
  quote := '\''
  path := "react".toList
  behind := []

/-- `import * as s from "./a.css";` -/
def whole : Import where
  before := []
  clause := .whole space space space ⟨'s', [], by decide, by decide⟩ space space
  quote := '"'
  path := "./a.css".toList
  behind := [';']

/-- `import './a.css'`, which is that stylesheet again. -/
def bare : Import where
  before := []
  clause := .bare space
  quote := '\''
  path := "./a.css".toList
  behind := []

def lines : List Line :=
  let free {cs : Text} := (@Text.contains_eq_false_iff keyword cs).mp
  [.statement other (free rfl) (free rfl), .other [] (by decide) (free rfl),
    .statement whole (free rfl) (free rfl), .statement bare (free rfl) (free rfl)]

end ImportScan.Sample

open ImportScan in
/-- An import of another module and an empty line hide none of the two imports below them. -/
theorem statements_below_other_import :
    Sample.component.isAbsolute = true ∧
    Text.join ['\n'] (Sample.lines.map Line.text) =
      "import r from 'react'\n\nimport * as s from \"./a.css\";\nimport './a.css'".toList ∧
    importStatements Sample.disk (Text.join ['\n'] (Sample.lines.map Line.text)) Sample.component =
      [⟨"./a.css".toList, Sample.sheet, Sample.component, 3⟩,
        ⟨"./a.css".toList, Sample.sheet, Sample.component, 4⟩] ∧
    importPaths Sample.disk (Text.join ['\n'] (Sample.lines.map Line.text)) Sample.component =
      [Sample.sheet] := by
  obtain ⟨hstatements, hpaths⟩ :=
    @statements_line_by_line Sample.disk Sample.lines Sample.component rfl
  exact ⟨rfl, rfl, hstatements.trans rfl, hpaths.trans rfl⟩

end ClassLens
