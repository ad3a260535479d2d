import ClassLens.Proofs.Stylesheet.Bytewise
import Mathlib.Data.List.Forall2
import Mathlib.Data.List.Induction
/-
  Blanking — all that blanking comments does to a text

  Blanking comments keeps every byte where it is. A line break stays, and so
  does every character outside comments; of a character inside one, all bytes
  become spaces. No block comment is left, and a text that opens no comment
  stays as it was.

  What is proved:
    1. `forall₂_encode_remains` — byte by byte;
    2. `contains_stripFrom` — no block comment is left;
    3. `stripFrom_eq_self_iff`, `foldl_allowsLine_iff` — what stays as it was,
       and where a line comment can start;
    4. `stripComments_only_blanks` — all of it together.
-/

namespace ClassLens

namespace Stylesheet

/-! ## Byte by byte -/

/-- A byte is kept, or it is no line break and becomes a space. -/
def KeptOrBlank (b b' : UInt8) : Prop := b' = b ∨ b ≠ 0x0A ∧ b' = 0x20

theorem keptOrBlank_blankByte (b : UInt8) : KeptOrBlank b (blankByte b) := by
  unfold blankByte
  split
  · rename_i hbreak
    exact .inl hbreak.symm
  · rename_i hbreak
    exact .inr ⟨hbreak, rfl⟩

theorem forall₂_encode_remains (marks : List (Char × Bool)) :
    List.Forall₂ KeptOrBlank (Utf8.encode (marks.map (·.1)))
      (Utf8.encode (marks.flatMap remains)) := by
  induction marks with
  | nil => exact .nil
  | cons m marks ih =>
    obtain ⟨c, kept⟩ := m
    rw [List.map_cons, List.flatMap_cons, Utf8.encode_cons, Utf8.encode_append]
    refine List.rel_append ?_ ih
    cases kept with
    | true =>
      rw [remains, Utf8.encode_cons, Utf8.encode_nil, List.append_nil]
      exact List.forall₂_same.mpr fun b _ => .inl rfl
    | false =>
      rw [remains, encode_blanked, List.forall₂_map_right_iff]
      exact List.forall₂_same.mpr fun b _ => keptOrBlank_blankByte b

theorem forall₂_encode_stripComments (css : Text) :
    List.Forall₂ KeptOrBlank (Utf8.encode css) (Utf8.encode (stripComments css)) := by
  have h := forall₂_encode_remains (marksFrom (.code true) css)
  rwa [map_fst_marksFrom, ← stripFrom_eq] at h

theorem getElem?_stripComments (css : Text) (i : Nat) :
    Option.Rel KeptOrBlank (Utf8.encode css)[i]? (Utf8.encode (stripComments css))[i]? := by
  generalize Utf8.encode css = bytes, Utf8.encode (stripComments css) = bytes',
    forall₂_encode_stripComments css = h
  induction h generalizing i with
  | nil => exact .none
  | cons hb _ ih =>
    cases i with
    | zero => exact .some hb
    | succ i => exact ih i

/-- A character is kept or blanked as a whole. -/
theorem stripComments_parts {css before after : Text} {c : Char} (h : css = before ++ c :: after) :
    ∃ before' now after', stripComments css = before' ++ (now ++ after') ∧
      Text.bytes before' = Text.bytes before ∧ Text.bytes after' = Text.bytes after ∧
      (now = [c] ∨ now = blanked c) := by
  have hmarks : (marksFrom (.code true) css).map (·.1) = before ++ c :: after := by
    rw [map_fst_marksFrom, h]
  obtain ⟨first, rest, hsplit, rfl, hrest⟩ := List.map_eq_append_iff.mp hmarks
  obtain ⟨⟨d, kept⟩, last, rfl, rfl, rfl⟩ := List.map_eq_cons_iff.mp hrest
  refine ⟨first.flatMap remains, remains (d, kept), last.flatMap remains, ?_,
    bytes_flatMap_remains first, bytes_flatMap_remains last, ?_⟩
  · show stripFrom (.code true) css = _
    rw [stripFrom_eq, hsplit, List.flatMap_append, List.flatMap_cons]
  · cases kept
    · exact .inr rfl
    · exact .inl rfl

/-! ## No block comment is left -/

theorem contains_append_of_not_mem {a b : Text} (h : '/' ∉ a) :
    Text.contains ['/', '*'] (a ++ b) = Text.contains ['/', '*'] b := by
  induction a with
  | nil => rfl
  | cons c a ih =>
    simp only [List.mem_cons, not_or] at h
    have hnot : Text.startsWith ['/', '*'] (c :: (a ++ b)) = false := by
      show (('/' == c) && _) = false
      simp [h.1]
    rw [List.cons_append, Text.contains, hnot, Bool.false_or, ih h.2]

theorem head?_stripFrom (mode : CommentMode) (cs : Text)
    (h : (stripFrom mode cs).head? = some '*') : cs.head? = some '*' := by
  cases cs with
  | nil => cases mode <;> exact h
  | cons c cs =>
    rw [stripFrom_eq, marksFrom, List.flatMap_cons,
      List.head?_append_of_ne_nil _ (remains_ne_nil _)] at h
    cases hkept : (commentStep mode c cs.head?).1 with
    | true =>
      rw [hkept] at h
      exact h
    | false =>
      rw [hkept] at h
      have hmem : '*' ∈ blanked c := List.mem_of_mem_head? h
      rcases mem_blanked hmem with hbreak | hspace
      · cases hbreak
      · cases hspace

theorem contains_stripFrom (mode : CommentMode) (cs : Text) :
    Text.contains ['/', '*'] (stripFrom mode cs) = false := by
  induction cs generalizing mode with
  | nil => rfl
  | cons c cs ih =>
    rw [stripFrom]
    rcases hstep : commentStep mode c cs.head? with ⟨kept, mode'⟩
    cases kept with
    | true =>
      -- a slash is kept only where no star is behind it
      have hnot : Text.startsWith ['/', '*'] (c :: stripFrom mode' cs) = false := by
        refine Bool.eq_false_iff.mpr fun hstart => ?_
        obtain ⟨rest, hrest⟩ := Text.startsWith_iff.mp hstart
        obtain ⟨rfl, htail⟩ := List.cons.inj hrest
        have hstar := head?_stripFrom mode' cs (by rw [htail]; rfl)
        rw [hstar] at hstep
        cases mode <;> simp [commentStep] at hstep
      show (_ || _) = false
      rw [hnot, ih]
      rfl
    | false =>
      have hslash : '/' ∉ blanked c := by
        intro hmem
        rcases mem_blanked hmem with hbreak | hspace
        · cases hbreak
        · cases hspace
      rw [contains_append_of_not_mem hslash]
      exact ih mode'

/-! ## What stays as it was -/

/-- No comment opens in a text, a line comment being possible at its start or not. -/
def OpensNone : Bool → Text → Prop
  | _, [] => True
  | ok, c :: cs =>
    ¬ (c = '/' ∧ cs.head? = some '*') ∧ ¬ (c = '/' ∧ cs.head? = some '/' ∧ ok = true) ∧
      OpensNone (allowsLine ok c) cs

theorem stripFrom_eq_self_iff (ok : Bool) (cs : Text) :
    stripFrom (.code ok) cs = cs ↔ OpensNone ok cs := by
  induction cs generalizing ok with
  | nil => exact ⟨fun _ => trivial, fun _ => rfl⟩
  | cons c cs ih =>
    -- a slash that opens a comment becomes a space
    have hblank : ∀ rest : Text, blanked '/' ++ rest ≠ '/' :: cs := fun rest h => by cases h
    by_cases hblock : c = '/' ∧ cs.head? = some '*'
    · obtain ⟨rfl, hnext⟩ := hblock
      simp [stripFrom, commentStep, OpensNone, hnext, hblank]
    by_cases hline : c = '/' ∧ cs.head? = some '/' ∧ ok = true
    · obtain ⟨rfl, hnext, rfl⟩ := hline
      simp [stripFrom, commentStep, OpensNone, hnext, hblank]
    · have hstep : stripFrom (.code ok) (c :: cs) =
          c :: stripFrom (.code (allowsLine ok c)) cs := by
        simp only [stripFrom, commentStep, if_neg hblock, if_neg hline]
      rw [hstep, List.cons.injEq, ih]
      simp [OpensNone, hblock, hline]

/-- A text opens no comment when it holds no opening of a block comment, and
two slashes only where no line comment can start. -/
theorem opensNone_iff (ok : Bool) (cs : Text) :
    OpensNone ok cs ↔ Text.contains ['/', '*'] cs = false ∧
      ∀ pre post, cs = pre ++ '/' :: '/' :: post → pre.foldl allowsLine ok = false := by
  induction cs generalizing ok with
  | nil => simp [OpensNone, Text.contains]
  | cons c cs ih =>
    have hstart : Text.startsWith ['/', '*'] (c :: cs) = true ↔ c = '/' ∧ cs.head? = some '*' := by
      rw [Text.startsWith_iff]
      constructor
      · rintro ⟨rest, h⟩
        cases h
        exact ⟨rfl, rfl⟩
      · rintro ⟨rfl, hnext⟩
        obtain ⟨rest, rfl⟩ := List.head?_eq_some_iff.mp hnext
        exact ⟨rest, rfl⟩
    have hcontains : Text.contains ['/', '*'] (c :: cs) = false ↔
        ¬ (c = '/' ∧ cs.head? = some '*') ∧ Text.contains ['/', '*'] cs = false := by
      rw [Text.contains, Bool.or_eq_false_iff, ← hstart, Bool.not_eq_true]
    rw [OpensNone, ih, hcontains]
    constructor
    · rintro ⟨hblock, hline, hrest, hslashes⟩
      refine ⟨⟨hblock, hrest⟩, fun pre post h => ?_⟩
      cases pre with
      | nil =>
        cases h
        exact Bool.eq_false_iff.mpr fun hok => hline ⟨rfl, rfl, hok⟩
      | cons d pre =>
        obtain ⟨rfl, hcs⟩ := List.cons.inj h
        exact hslashes pre post hcs
    · rintro ⟨⟨hblock, hrest⟩, hslashes⟩
      refine ⟨hblock, ?_, hrest, fun pre post h => ?_⟩
      · rintro ⟨rfl, hnext, rfl⟩
        obtain ⟨rest, rfl⟩ := List.head?_eq_some_iff.mp hnext
        exact absurd (hslashes [] rest rfl) (by decide)
      · exact hslashes (c :: pre) post (by rw [h]; rfl)

/-- A line comment can start behind a text: since its start, or since its last
line break, brace or semicolon, it holds nothing but spaces, tabs and returns. -/
def StartsStatement (before : Text) : Prop :=
  ∃ lead blanks, before = lead ++ blanks ∧ (∀ c ∈ blanks, c = ' ' ∨ c = '\t' ∨ c = '\r') ∧
    ∀ c, lead.getLast? = some c → c = '\n' ∨ c = '{' ∨ c = '}' ∨ c = ';'

theorem startsStatement_concat (before : Text) (c : Char) :
    StartsStatement (before ++ [c]) ↔ (c = '\n' ∨ c = '{' ∨ c = '}' ∨ c = ';') ∨
      (c = ' ' ∨ c = '\t' ∨ c = '\r') ∧ StartsStatement before := by
  constructor
  · rintro ⟨lead, blanks, hparts, hblanks, hlead⟩
    rcases List.eq_nil_or_concat blanks with rfl | ⟨init, last, rfl⟩
    · rw [List.append_nil] at hparts
      exact .inl (hlead c (by rw [← hparts, List.getLast?_concat]))
    · rw [List.concat_eq_append, ← List.append_assoc] at hparts
      obtain ⟨rfl, hlast⟩ := List.append_inj' hparts rfl
      cases hlast
      exact .inr ⟨hblanks c (by simp), lead, init, rfl, fun d hd => hblanks d (by simp [hd]), hlead⟩
  · rintro (hmark | ⟨hblank, lead, blanks, rfl, hblanks, hlead⟩)
    · exact ⟨before ++ [c], [], by simp, by simp, by simpa using hmark⟩
    · refine ⟨lead, blanks ++ [c], by simp, ?_, hlead⟩
      intro d hd
      rcases List.mem_append.mp hd with hd | hd
      · exact hblanks d hd
      · rw [List.mem_singleton.mp hd]
        exact hblank

/-- The scan knows where a line comment can start. -/
theorem foldl_allowsLine_iff (before : Text) :
    before.foldl allowsLine true = true ↔ StartsStatement before := by
  induction before using List.reverseRecOn with
  | nil => exact ⟨fun _ => ⟨[], [], rfl, by simp, by simp⟩, fun _ => rfl⟩
  | append_singleton before c ih =>
    rw [List.foldl_append, List.foldl_cons, List.foldl_nil, startsStatement_concat, ← ih,
      allowsLine]
    by_cases hmark : c = '\n' ∨ c = '{' ∨ c = '}' ∨ c = ';'
    · simp [hmark]
    · by_cases hblank : c = ' ' ∨ c = '\t' ∨ c = '\r' <;> simp [hmark, hblank]

/-- A text stays as it was exactly when it holds no opening of a block comment,
and no two slashes where a statement could start. -/
theorem stripComments_eq_self_iff (css : Text) :
    stripComments css = css ↔ Text.contains ['/', '*'] css = false ∧
      ∀ before after, css = before ++ '/' :: '/' :: after → ¬ StartsStatement before := by
  show stripFrom (.code true) css = css ↔ _
  rw [stripFrom_eq_self_iff, opensNone_iff]
  simp only [← foldl_allowsLine_iff, Bool.not_eq_true]

/-- **Blanking comments only blanks.** Done in place it gets through, and what
it leaves are the bytes of a text. There are as many bytes as before, the line
breaks are where they were, every other byte is the one from before or a space,
and a character is kept or blanked as a whole. No block comment is left, and a
text that opens no comment stays as it was. -/
theorem stripComments_only_blanks (css : Text) :
    stripBytes? css = some (Utf8.encode (stripComments css)) ∧
    Utf8.decode? (Utf8.encode (stripComments css)) = some (stripComments css) ∧
    (Utf8.encode (stripComments css)).length = (Utf8.encode css).length ∧
    (∀ i : Nat, (Utf8.encode (stripComments css))[i]? = some 0x0A ↔
      (Utf8.encode css)[i]? = some 0x0A) ∧
    (∀ (i : Nat) (b : UInt8), (Utf8.encode css)[i]? = some b →
      (Utf8.encode (stripComments css))[i]? = some b ∨
        (Utf8.encode (stripComments css))[i]? = some 0x20) ∧
    (∀ before c after, css = before ++ c :: after →
      ∃ before' now after', stripComments css = before' ++ (now ++ after') ∧
        Text.bytes before' = Text.bytes before ∧ Text.bytes after' = Text.bytes after ∧
        (now = [c] ∨ now = blanked c)) ∧
    Text.contains ['/', '*'] (stripComments css) = false ∧
    (stripComments css = css ↔ Text.contains ['/', '*'] css = false ∧
      ∀ before after, css = before ++ '/' :: '/' :: after → ¬ StartsStatement before) := by
  have hlength : (Utf8.encode (stripComments css)).length = (Utf8.encode css).length :=
    (forall₂_encode_stripComments css).length_eq.symm
  refine ⟨stripBytes?_eq css, Utf8.decode?_encode _, hlength, fun i => ?breaks,
    fun i b hb => ?bytes, fun _ _ _ => stripComments_parts, contains_stripFrom _ css,
    stripComments_eq_self_iff css⟩
  case breaks =>
    generalize (Utf8.encode css)[i]? = byte, (Utf8.encode (stripComments css))[i]? = byte',
      getElem?_stripComments css i = h
    cases h with
    | none => rfl
    | some h =>
      rcases h with rfl | ⟨hbreak, rfl⟩
      · rfl
      · simp [hbreak]
  case bytes =>
    have h := getElem?_stripComments css i
    rw [hb] at h
    generalize (Utf8.encode (stripComments css))[i]? = byte' at h ⊢
    cases h with
    | some h =>
      rcases h with rfl | ⟨-, rfl⟩
      · exact .inl rfl
      · exact .inr rfl

end Stylesheet

end ClassLens
