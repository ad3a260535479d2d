import ClassLens.Proofs.Stylesheet.Offsets
import ClassLens.Stylesheet.Media
import Mathlib.Data.List.Infix
/-
  Nesting — the innermost media block, found with a stack

  The media query around a place is looked up block by block: the end of every
  media block is searched from its own opening brace, and of the blocks around
  the place the last one wins. One pass over the text with a stack of the open
  blocks gives the same answer, as long as no brace stands inside quotes. Stray
  closing braces, blocks that nothing closes and places on a brace included.

  What is proved:
    1. `Head.mediaQuery?_eq` — what makes the head of a block a media block;
    2. `Pass`, `exists_pass` — what one pass leaves on the stack: the blocks it
       opened itself and did not close, and of those before it all but the ones
       that the text closes;
    3. `mediaQueryAt_eq_innermostQuery` — the two ways agree.
-/

namespace ClassLens

namespace Stylesheet

/-- No brace stands inside quotes, when the text starts in the given quoting. -/
def BracesOutside : Quoting → Text → Prop
  | _, [] => True
  | quoting, c :: cs =>
    (c = '{' ∨ c = '}' → quoting = .outside) ∧ BracesOutside (quoting.next c) cs

instance decidableBracesOutside : ∀ quoting cs, Decidable (BracesOutside quoting cs)
  | _, [] => .isTrue trivial
  | quoting, c :: cs =>
    have := decidableBracesOutside (quoting.next c) cs
    inferInstanceAs (Decidable (_ ∧ _))

/-! ## One pass with a stack -/

/-- The query of a block with this stretch before its brace, if it is a media
block: what follows the first media mark with a word boundary behind it. -/
def stretchQuery? (stretch : Text) : Option Text :=
  (stretch.tails.find? fun t =>
      mediaMark.isPrefixOf t &&
        Text.isBoundary mediaMark.getLast? (t.drop mediaMark.length).head?).map
    fun t => mediaMark ++ ' ' :: Text.trim (t.drop mediaMark.length)

/-- The blocks that are open at a byte offset, the innermost first, each with
its query if it is a media block. The pass stands at byte `pos`, behind the
stretch in `run` (last character first), with the blocks of `stack` open. A
block that opens at the offset is not open yet, one that closes there no more. -/
def openBlocks (offset pos : Nat) (run : Text) (stack : List (Option Text)) :
    Text → List (Option Text)
  | [] => stack
  | c :: cs =>
    if offset < pos then stack
    else if c = '{' then
      if pos < offset then openBlocks offset (pos + 1) [] (stretchQuery? run.reverse :: stack) cs
      else stack
    else if c = '}' then openBlocks offset (pos + 1) [] stack.tail cs
    else if c = ';' then openBlocks offset (pos + 1) [] stack cs
    else openBlocks offset (pos + c.utf8Size) (c :: run) stack cs

/-- The query of the topmost media block at a byte offset inside the text. -/
def innermostQuery (css : Text) (offset : Nat) : Option Text :=
  if offset < Text.bytes css then (openBlocks offset 0 [] [] css).findSome? id else none

/-! ## Media blocks -/

theorem isBoundary_mediaMark (next : Option Char) :
    Text.isBoundary mediaMark.getLast? next = !Text.isWord? next := by
  have hlast : Text.isWord? mediaMark.getLast? = true := by decide
  unfold Text.isBoundary
  rw [hlast]
  cases Text.isWord? next <;> rfl

/-- The head of a block holds a media mark exactly as its stretch does. -/
theorem Head.mediaQuery?_eq (h : Head) : h.mediaQuery? = stretchQuery? h.prelude := by
  have hfind : ∀ cs : Text, mediaPrelude? cs =
      (cs.tails.find? fun t => mediaMark.isPrefixOf t &&
        Text.isBoundary mediaMark.getLast? (t.drop mediaMark.length).head?).map
          (·.drop mediaMark.length) := by
    intro cs
    induction cs with
    | nil => rfl
    | cons c cs ih =>
      rw [List.tails_cons, List.find?_cons, mediaPrelude?, ih, isBoundary_mediaMark]
      by_cases hmark : mediaMark.isPrefixOf (c :: cs) = true
      · cases Text.isWord? ((c :: cs).drop mediaMark.length).head? <;>
          simp [Text.startsWith, hmark]
      · simp [Text.startsWith, hmark]
  unfold Head.mediaQuery? stretchQuery?
  rw [hfind, Option.map_map]
  rfl

/-! ## The ends of blocks -/

/-- The brace that closes `depth` open blocks stands at the offset or before it. -/
def ClosedBy (offset pos depth : Nat) (quoting : Quoting) (cs : Text) : Prop :=
  ∃ r, closeBlock depth quoting cs = some r ∧ pos + Text.bytes r.1 ≤ offset

theorem closeBlock_open (depth : Nat) (cs : Text) :
    closeBlock (depth + 1) .outside ('{' :: cs) =
      (closeBlock (depth + 2) .outside cs).map fun r => ('{' :: r.1, r.2) := by
  simp [closeBlock, Quoting.next]

theorem closeBlock_close (depth : Nat) (cs : Text) :
    closeBlock (depth + 2) .outside ('}' :: cs) =
      (closeBlock (depth + 1) .outside cs).map fun r => ('}' :: r.1, r.2) := by
  simp [closeBlock, Quoting.next]

theorem closeBlock_plain {c : Char} (hopen : c ≠ '{') (hclose : c ≠ '}') (depth : Nat)
    (quoting : Quoting) (cs : Text) :
    closeBlock depth quoting (c :: cs) =
      (closeBlock depth (quoting.next c) cs).map fun r => (c :: r.1, r.2) := by
  simp [closeBlock, hopen, hclose]

/-- What the search passes over moves it on and changes nothing else. -/
theorem closedBy_cons {c : Char} {cs : Text} {depth depth' : Nat} {quoting quoting' : Quoting}
    (h : closeBlock depth quoting (c :: cs) =
      (closeBlock depth' quoting' cs).map fun r => (c :: r.1, r.2)) (offset pos : Nat) :
    ClosedBy offset pos depth quoting (c :: cs) ↔
      ClosedBy offset (pos + c.utf8Size) depth' quoting' cs := by
  unfold ClosedBy
  rw [h]
  constructor
  · rintro ⟨r, hr, hle⟩
    obtain ⟨r', hr', rfl⟩ := Option.map_eq_some_iff.mp hr
    refine ⟨r', hr', ?_⟩
    rw [Text.bytes_cons] at hle
    omega
  · rintro ⟨r, hr, hle⟩
    refine ⟨(c :: r.1, r.2), by rw [hr]; rfl, ?_⟩
    rw [Text.bytes_cons]
    omega

theorem not_closedBy {offset pos : Nat} (h : offset < pos) (depth : Nat) (quoting : Quoting)
    (cs : Text) : ¬ ClosedBy offset pos depth quoting cs := by
  rintro ⟨r, -, hle⟩
  omega

theorem bytes_closeBlock {depth : Nat} {quoting : Quoting} {cs : Text} {r : Text × Text}
    (h : closeBlock depth quoting cs = some r) : Text.bytes r.1 < Text.bytes cs := by
  induction cs generalizing depth quoting r with
  | nil => simp [closeBlock] at h
  | cons c cs ih =>
    have hpos := Char.utf8Size_pos c
    rw [Text.bytes_cons]
    unfold closeBlock at h
    split at h
    · cases h
      simp only [Text.bytes_nil]
      omega
    · obtain ⟨r', hr', rfl⟩ := Option.map_eq_some_iff.mp h
      have hlt := ih hr'
      rw [Text.bytes_cons]
      omega

/-- A place inside the text and behind the opening brace of a block is in the
block unless the block is closed by then. -/
theorem Head.encloses_iff {h : Head} {offset : Nat} (hopen : h.brace < offset)
    (hinside : offset < h.brace + 1 + Text.bytes h.rest) :
    h.encloses offset = true ↔ ¬ ClosedBy offset (h.brace + 1) 1 .outside h.rest := by
  unfold Head.encloses Head.bodyEnd Head.body ClosedBy
  rw [Bool.and_eq_true, decide_eq_true_eq, decide_eq_true_eq]
  cases hclose : closeBlock 1 .outside h.rest with
  | none => simp [hopen, hinside]
  | some r => simp [hopen]

/-! ## Both ways -/

theorem le_brace_of_mem_headsFrom {start : Nat} {run cs : Text} {h : Head}
    (hmem : h ∈ headsFrom start run cs) : start + Text.bytes run ≤ h.brace := by
  induction cs generalizing start run with
  | nil => cases hmem
  | cons c cs ih =>
    unfold headsFrom at hmem
    split at hmem
    · rcases List.mem_cons.mp hmem with rfl | hlater
      · simp [Head.brace, Text.bytes_reverse]
      · have hle := ih hlater
        simp only [Text.bytes_nil] at hle
        omega
    · split at hmem
      · have hle := ih hmem
        simp only [Text.bytes_nil] at hle
        omega
      · have hle := ih hmem
        rw [Text.bytes_cons] at hle
        omega

/-- A block that opens at a place or behind it is not around the place. -/
theorem filter_encloses_of_le {offset start : Nat} {run : Text}
    (h : offset ≤ start + Text.bytes run) (cs : Text) :
    (headsFrom start run cs).filter (·.encloses offset) = [] := by
  rw [List.filter_eq_nil_iff]
  intro head hmem hencloses
  have hle := le_brace_of_mem_headsFrom hmem
  simp only [Head.encloses, Bool.and_eq_true, decide_eq_true_eq] at hencloses
  omega

/-- What a pass over the rest of a text leaves on the stack. On top are the
blocks it opened that are around the offset; below is what was there before,
without the `k` blocks that the text closes by then. -/
structure Pass (offset start : Nat) (run : Text) (quoting : Quoting) (cs : Text) (k : Nat) :
    Prop where
  stack_eq : ∀ stack, openBlocks offset (start + Text.bytes run) run stack cs =
    ((headsFrom start run cs).filter (·.encloses offset)).reverse.map Head.mediaQuery? ++
      stack.drop k
  closed_iff : ∀ n, n < k ↔ ClosedBy offset (start + Text.bytes run) (n + 1) quoting cs

namespace Pass

variable {offset start k : Nat} {run cs : Text} {quoting : Quoting}

theorem past (h : offset < start + Text.bytes run) : Pass offset start run quoting cs 0 where
  stack_eq := by
    intro stack
    rw [filter_encloses_of_le (Nat.le_of_lt h)]
    cases cs with
    | nil => rfl
    | cons c cs =>
      rw [openBlocks, if_pos h]
      rfl
  closed_iff := by
    intro n
    simp [not_closedBy h]

theorem openAt (h : offset = start + Text.bytes run) :
    Pass offset start run .outside ('{' :: cs) 0 where
  stack_eq := by
    intro stack
    rw [filter_encloses_of_le (Nat.le_of_eq h), openBlocks, if_neg (by omega), if_pos rfl,
      if_neg (by omega)]
    rfl
  closed_iff := by
    intro n
    have hsize : Char.utf8Size '{' = 1 := rfl
    rw [closedBy_cons (closeBlock_open n cs)]
    simp [not_closedBy (show offset < start + Text.bytes run + Char.utf8Size '{' by omega)]

/-- A block that opens before the offset takes the first closing brace that the
rest has left. It is around the offset when there is none by then. -/
theorem opened (hopen : start + Text.bytes run < offset)
    (hinside : offset < start + Text.bytes run + 1 + Text.bytes cs)
    (rest : Pass offset (start + Text.bytes run + 1) [] .outside cs k) :
    Pass offset start run .outside ('{' :: cs) (k - 1) := by
  have hbrace : (⟨start, run.reverse, cs⟩ : Head).brace = start + Text.bytes run := by
    simp [Head.brace, Text.bytes_reverse]
  have haround : (⟨start, run.reverse, cs⟩ : Head).encloses offset = true ↔ ¬ 0 < k := by
    rw [Head.encloses_iff (hbrace ▸ hopen) (hbrace ▸ hinside), hbrace, rest.closed_iff 0]
    rfl
  have hstack := rest.stack_eq
  rw [Text.bytes_nil, Nat.add_zero] at hstack
  constructor
  · intro stack
    rw [openBlocks, if_neg (by omega), if_pos rfl, if_pos hopen, hstack, headsFrom, if_pos rfl,
      List.filter_cons]
    by_cases hk : 0 < k
    · obtain ⟨k, rfl⟩ : ∃ k', k = k' + 1 := ⟨k - 1, by omega⟩
      rw [if_neg (by rw [haround]; omega)]
      simp
    · obtain rfl : k = 0 := by omega
      rw [if_pos (haround.mpr hk)]
      simp [Head.mediaQuery?_eq]
  · intro n
    have hrest := rest.closed_iff (n + 1)
    rw [Text.bytes_nil, Nat.add_zero] at hrest
    rw [closedBy_cons (closeBlock_open n cs)]
    exact Iff.trans (by omega) hrest

theorem closed (hle : start + Text.bytes run ≤ offset)
    (rest : Pass offset (start + Text.bytes run + 1) [] .outside cs k) :
    Pass offset start run .outside ('}' :: cs) (k + 1) := by
  have hstack := rest.stack_eq
  rw [Text.bytes_nil, Nat.add_zero] at hstack
  constructor
  · intro stack
    rw [openBlocks, if_neg (by omega), if_neg (by decide), if_pos rfl, hstack, headsFrom,
      if_neg (by decide), if_pos (.inl rfl), List.drop_tail]
  · intro n
    cases n with
    | zero =>
      have hfirst : ClosedBy offset (start + Text.bytes run) 1 .outside ('}' :: cs) :=
        ⟨([], cs), by simp [closeBlock], hle⟩
      simp [hfirst]
    | succ n =>
      have hrest := rest.closed_iff n
      rw [Text.bytes_nil, Nat.add_zero] at hrest
      rw [closedBy_cons (closeBlock_close n cs)]
      exact Iff.trans (by omega) hrest

theorem ended (hle : start + Text.bytes run ≤ offset)
    (rest : Pass offset (start + Text.bytes run + 1) [] (quoting.next ';') cs k) :
    Pass offset start run quoting (';' :: cs) k := by
  have hstack := rest.stack_eq
  have hclosed := rest.closed_iff
  rw [Text.bytes_nil, Nat.add_zero] at hstack hclosed
  constructor
  · intro stack
    rw [openBlocks, if_neg (by omega), if_neg (by decide), if_neg (by decide), if_pos rfl, hstack,
      headsFrom, if_neg (by decide), if_pos (.inr rfl)]
  · intro n
    rw [closedBy_cons (closeBlock_plain (by decide) (by decide) (n + 1) quoting cs)]
    exact hclosed n

theorem grown {c : Char} (hc : c ≠ '{' ∧ c ≠ '}' ∧ c ≠ ';')
    (hle : start + Text.bytes run ≤ offset)
    (rest : Pass offset start (c :: run) (quoting.next c) cs k) :
    Pass offset start run quoting (c :: cs) k := by
  obtain ⟨hopen, hclose, hsemi⟩ := hc
  have hpos : start + Text.bytes (c :: run) = start + Text.bytes run + c.utf8Size := by
    rw [Text.bytes_cons]
    omega
  have hstack := rest.stack_eq
  have hclosed := rest.closed_iff
  rw [hpos] at hstack hclosed
  constructor
  · intro stack
    rw [openBlocks, if_neg (by omega), if_neg hopen, if_neg hclose, if_neg hsemi, hstack, headsFrom,
      if_neg hopen, if_neg (by simp [hclose, hsemi])]
  · intro n
    rw [closedBy_cons (closeBlock_plain hopen hclose (n + 1) quoting cs)]
    exact hclosed n

end Pass

/-- Every pass over a text without braces inside quotes is of this kind. -/
theorem exists_pass {offset : Nat} (start : Nat) (run cs : Text) {quoting : Quoting}
    (hquoting : BracesOutside quoting cs)
    (hinside : offset < start + Text.bytes run + Text.bytes cs) :
    ∃ k, Pass offset start run quoting cs k := by
  induction cs generalizing start run quoting with
  | nil => exact ⟨0, .past hinside⟩
  | cons c cs ih =>
    obtain ⟨hbrace, hrest⟩ := hquoting
    rw [Text.bytes_cons] at hinside
    -- behind a brace or a semicolon a new stretch starts
    have hnew : c.utf8Size = 1 →
        ∃ k, Pass offset (start + Text.bytes run + 1) [] (quoting.next c) cs k := by
      intro hsize
      apply ih _ _ hrest
      rw [Text.bytes_nil]
      omega
    by_cases hpast : offset < start + Text.bytes run
    · exact ⟨0, .past hpast⟩
    by_cases hopen : c = '{'
    · subst hopen
      obtain rfl := hbrace (.inl rfl)
      obtain ⟨k, hk⟩ := hnew rfl
      by_cases hat : offset = start + Text.bytes run
      · exact ⟨0, .openAt hat⟩
      · have hsize : Char.utf8Size '{' = 1 := rfl
        exact ⟨k - 1, hk.opened (by omega) (by omega)⟩
    by_cases hclose : c = '}'
    · subst hclose
      obtain rfl := hbrace (.inr rfl)
      obtain ⟨k, hk⟩ := hnew rfl
      exact ⟨k + 1, hk.closed (by omega)⟩
    by_cases hsemi : c = ';'
    · subst hsemi
      obtain ⟨k, hk⟩ := hnew rfl
      exact ⟨k, hk.ended (by omega)⟩
    · obtain ⟨k, hk⟩ := ih start (c :: run) hrest (by rw [Text.bytes_cons]; omega)
      exact ⟨k, hk.grown ⟨hopen, hclose, hsemi⟩ (by omega)⟩

/-! ## The query around a place -/

theorem parts_of_mem_heads {css : Text} {h : Head} (hmem : h ∈ heads css) :
    ∃ before, css = before ++ (h.prelude ++ '{' :: h.rest) ∧ h.start = Text.bytes before := by
  obtain ⟨before, hparts, hstart, -⟩ := mem_headsFrom_parts hmem
  exact ⟨before, hparts, by rw [hstart, Nat.zero_add]⟩

theorem bytes_of_mem_heads {css : Text} {h : Head} (hmem : h ∈ heads css) :
    Text.bytes css = h.brace + 1 + Text.bytes h.rest := by
  obtain ⟨before, hparts, hstart⟩ := parts_of_mem_heads hmem
  have hsize : Char.utf8Size '{' = 1 := rfl
  rw [hparts, Head.brace, hstart, Text.bytes_append, Text.bytes_append, Text.bytes_cons, hsize]
  omega

theorem getLast?_filterMap {α β : Type} (f : α → Option β) (l : List α) :
    (l.filterMap f).getLast? = (l.reverse.map f).findSome? id := by
  rw [List.getLast?_eq_head?_reverse, ← List.filterMap_reverse, List.head?_filterMap,
    List.findSome?_map]
  rfl

theorem mediaQueryAt_eq_getLast? (css : Text) (offset : Nat) :
    mediaQueryAt css offset =
      (((heads css).filter (·.encloses offset)).filterMap Head.mediaQuery?).getLast? := by
  unfold mediaQueryAt
  congr 1
  rw [List.filterMap_filter]
  apply List.filterMap_congr
  intro h _
  cases h.mediaQuery? <;> simp

theorem not_encloses_end {css : Text} {h : Head} (hmem : h ∈ heads css) {offset : Nat}
    (hend : Text.bytes css ≤ offset) : h.encloses offset = false := by
  have hbytes := bytes_of_mem_heads hmem
  have hbody : Text.bytes h.body ≤ Text.bytes h.rest := by
    unfold Head.body
    split
    · rename_i hclose
      exact Nat.le_of_lt (bytes_closeBlock hclose)
    · exact Nat.le_refl _
  have hnot : ¬ offset < h.bodyEnd := by
    unfold Head.bodyEnd
    omega
  simp [Head.encloses, hnot]

/-- **The innermost media block.** In a text without braces inside quotes the
media query around an offset is that of the topmost media block on the stack of
blocks that were opened before the offset and not closed by it. -/
theorem mediaQueryAt_eq_innermostQuery (css : Text) (offset : Nat)
    (h : BracesOutside .outside css) : mediaQueryAt css offset = innermostQuery css offset := by
  rw [mediaQueryAt_eq_getLast?]
  unfold innermostQuery
  split
  · rename_i hinside
    obtain ⟨k, pass⟩ := exists_pass 0 [] css h (by simpa using hinside)
    have hstack := pass.stack_eq []
    rw [List.drop_nil, List.append_nil] at hstack
    rw [getLast?_filterMap]
    exact congrArg (List.findSome? id) hstack.symm
  · rename_i hend
    have hnone : (heads css).filter (·.encloses offset) = [] := by
      rw [List.filter_eq_nil_iff]
      intro head hmem
      rw [not_encloses_end hmem (by omega)]
      decide
    rw [hnone]
    rfl

/-! A stray closing brace, a quote, a block of another kind, and blocks that nothing closes. -/

namespace Unclosed

def css : Text :=
  "\x7d@media a \x7b .x\x7bcontent:';'\x7d ".toList ++
    "@supports b\x7b;é @mediax @media  c\x7b.y\x7b\x7d\x7d".toList

end Unclosed

open Unclosed in
theorem mediaQueryAt_eq_innermostQuery_unclosed :
    BracesOutside .outside css ∧
      mediaQueryAt css 65 = innermostQuery css 65 ∧
      innermostQuery css 65 = some "@media c".toList ∧
      mediaQueryAt css 66 = innermostQuery css 66 ∧
      innermostQuery css 66 = some "@media a".toList := by
  have h : BracesOutside .outside css := by decide +kernel
  exact ⟨h, mediaQueryAt_eq_innermostQuery css 65 h, by decide +kernel,
    mediaQueryAt_eq_innermostQuery css 66 h, by decide +kernel⟩

end Stylesheet

end ClassLens
