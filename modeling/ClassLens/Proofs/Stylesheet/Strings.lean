import ClassLens.Proofs.Stylesheet.Offsets
import ClassLens.Proofs.Text.Split
import Mathlib.Data.List.Infix
/-
  Strings — when a class is defined by a string

  The search for the end of a block passes over strings, but the search for
  heads does not: a brace or a semicolon cuts the text wherever it stands. So
  the dot of a class may stand inside a string. It takes a string that cuts the
  text itself or closes a bracket, or one that opens outside all brackets in a
  head.

  What is proved:
    1. `exists_opening` — the string around a place;
    2. `closing_of_depth_lt` — brackets are closed by closing brackets only;
    3. `strings_that_define_classes` — a class inside a string, and the string;
    4. `class_in_string` — each kind of string that defines a class.
-/

namespace ClassLens

namespace Stylesheet

/-- The quoting behind a text, scanned from its start. -/
def quotingAfter (cs : Text) : Quoting := cs.foldl Quoting.next .outside

/-- A string opens with a quote behind `before`, and goes on for `content` at least. -/
structure OpensString (before : Text) (quote : Char) (content : Text) : Prop where
  outside : quotingAfter before = .outside
  is_quote : quote = '"' ∨ quote = '\''
  inside : ∀ part, part <+: content → part.foldl Quoting.next (.inside quote) ≠ .outside

/-- A character that cuts the text into heads and bodies, or closes a bracket. -/
def IsCut (c : Char) : Prop := c = '{' ∨ c = '}' ∨ c = ';' ∨ c = ')' ∨ c = ']'

/-- A place inside a head, outside all brackets, counted from the start of the head. -/
def OutsideBrackets (h : Head) (offset : Nat) : Prop :=
  ∃ lead, lead <+: h.prelude ∧ offset = h.start + Text.bytes lead ∧
    lead.foldl bracketDepth 0 = 0

/-! ## The string around a place -/

theorem OpensString.quotingAfter_eq {before content : Text} {quote : Char}
    (h : OpensString before quote content) :
    quotingAfter (before ++ quote :: content) = content.foldl Quoting.next (.inside quote) := by
  have hnext : Quoting.next .outside quote = .inside quote := by
    simp [Quoting.next, h.is_quote]
  have houtside : before.foldl Quoting.next .outside = .outside := h.outside
  unfold quotingAfter
  rw [List.foldl_append, houtside, List.foldl_cons, hnext]

theorem exists_opening {cs : Text} (h : quotingAfter cs ≠ .outside) :
    ∃ before quote content, cs = before ++ quote :: content ∧ OpensString before quote content := by
  induction cs using List.reverseRecOn with
  | nil => exact absurd rfl h
  | append_singleton cs c ih =>
    have hstep : quotingAfter (cs ++ [c]) = (quotingAfter cs).next c := by
      simp [quotingAfter]
    rw [hstep] at h
    by_cases hcs : quotingAfter cs = .outside
    · -- the string opens with the last character
      have hquote : c = '"' ∨ c = '\'' := by
        by_contra hnot
        rw [hcs] at h
        exact h (by simp [Quoting.next, hnot])
      refine ⟨cs, c, [], rfl, hcs, hquote, fun part hpart => ?_⟩
      rw [List.prefix_nil.mp hpart]
      intro heq
      cases heq
    · obtain ⟨before, quote, content, hparts, hopens⟩ := ih hcs
      refine ⟨before, quote, content ++ [c], by simp [hparts], hopens.outside, hopens.is_quote,
        fun part hpart => ?_⟩
      rcases List.prefix_concat_iff.mp hpart with rfl | hpart
      · rw [List.foldl_append, ← hopens.quotingAfter_eq, ← hparts]
        exact h
      · exact hopens.inside part hpart

/-! ## Brackets -/

theorem closing_of_depth_lt {cs : Text} {depth : Nat} (h : cs.foldl bracketDepth depth < depth) :
    ∃ c ∈ cs, c = ')' ∨ c = ']' := by
  induction cs generalizing depth with
  | nil => exact absurd h (Nat.lt_irrefl _)
  | cons c cs ih =>
    by_cases hc : c = ')' ∨ c = ']'
    · exact ⟨c, List.mem_cons_self, hc⟩
    · have hle : depth ≤ bracketDepth depth c := by
        unfold bracketDepth
        rw [if_neg hc]
        split <;> omega
      rw [List.foldl_cons] at h
      obtain ⟨d, hd, hclosing⟩ := ih (Nat.lt_of_lt_of_le h hle)
      exact ⟨d, List.mem_cons_of_mem c hd, hclosing⟩

/-- A string that reaches a place outside the brackets of a head. -/
theorem cut_or_outside {front lead before content : Text} {quote : Char}
    (hmarks : ∀ mark ∈ front.getLast?, mark = '{' ∨ mark = '}' ∨ mark = ';')
    (htop : lead.foldl bracketDepth 0 = 0) (hquote : quote = '"' ∨ quote = '\'')
    (hparts : front ++ lead = before ++ quote :: content) :
    (∃ c ∈ content, IsCut c) ∨
      ∃ opening, before = front ++ opening ∧ opening <+: lead ∧
        opening.foldl bracketDepth 0 = 0 := by
  rcases List.append_eq_append_iff.mp hparts with
    ⟨opening, hbefore, hlead⟩ | ⟨later, hfront, hlater⟩
  · -- the string opens in the head
    by_cases hopen : opening.foldl bracketDepth 0 = 0
    · exact .inr ⟨opening, hbefore, ⟨quote :: content, hlead.symm⟩, hopen⟩
    · have hskip :
          bracketDepth (opening.foldl bracketDepth 0) quote = opening.foldl bracketDepth 0 := by
        rcases hquote with rfl | rfl <;> rfl
      rw [hlead, List.foldl_append, List.foldl_cons, hskip] at htop
      have hlt : content.foldl bracketDepth (opening.foldl bracketDepth 0) <
          opening.foldl bracketDepth 0 := by omega
      obtain ⟨c, hc, hclosing⟩ := closing_of_depth_lt hlt
      exact .inl ⟨c, hc, .inr (.inr (.inr hclosing))⟩
  · cases later with
    | nil =>
      -- it opens with the first character of the head
      refine .inr ⟨[], by simpa using hfront.symm, List.nil_prefix, rfl⟩
    | cons first later =>
      -- it opens before the head, so it holds the mark that the head stands behind
      obtain ⟨rfl, hcontent⟩ := List.cons.inj hlater
      left
      rcases List.eq_nil_or_concat later with rfl | ⟨rest, mark, rfl⟩
      · have hquote' := hmarks quote (by rw [hfront]; simp)
        rcases hquote with rfl | rfl <;> simp at hquote'
      · have hmark := hmarks mark (by rw [hfront]; simp [List.getLast?_cons])
        refine ⟨mark, by rw [hcontent]; simp, ?_⟩
        rcases hmark with hopen | hclose | hsemi
        · exact .inl hopen
        · exact .inr (.inl hclose)
        · exact .inr (.inr (.inl hsemi))

/-- **A class inside a string takes a string that cuts the text or opens outside
brackets.** Let the dot of a definition stand inside a string of the text
without comments. Then the string holds a brace, a semicolon or a closing
bracket before the dot, or it opens in the head of the definition, outside all
brackets. -/
theorem strings_that_define_classes {css : Text} {d : Definition} (hd : d ∈ definitions css)
    {before after : Text} (htext : stripComments css = before ++ after)
    (hoffset : Text.bytes before = d.offset) (hinside : quotingAfter before ≠ .outside) :
    ∃ front quote content, before = front ++ quote :: content ∧ OpensString front quote content ∧
      ((∃ c ∈ content, IsCut c) ∨
        ∃ h ∈ heads (stripComments css), d ∈ ruleDefinitions css (stripComments css) h ∧
          OutsideBrackets h (Text.bytes front)) := by
  obtain ⟨h, hmem, hrule⟩ := List.mem_flatMap.mp hd
  obtain ⟨relative, hclass, hplace⟩ := mem_ruleDefinitions hrule
  obtain ⟨-, lead, rest, hprelude, hrelative, -, htop⟩ := topClassAt_of_mem_selectorClasses hclass
  obtain ⟨head, hhead, hstart, hmarks⟩ := mem_headsFrom_parts hmem
  obtain ⟨front, quote, content, hparts, hopens⟩ := exists_opening hinside
  -- the text before the dot is what stands before the head and the lead of the head
  have hbefore : before = head ++ lead := by
    have hsame :
        (head ++ lead) ++ ('.' :: (d.name ++ rest) ++ '{' :: h.rest) = before ++ after := by
      rw [← htext]
      simpa [hprelude] using hhead.symm
    have hbytes : Text.bytes (head ++ lead) = Text.bytes before := by
      rw [hoffset, hplace, hstart, Text.bytes_append]
      omega
    obtain ⟨extra, hextra, -⟩ := Text.parts_of_bytes_le hsame (Nat.le_of_eq hbytes)
    have hnil : extra = [] := by
      apply Text.eq_nil_of_bytes_eq_zero
      rw [hextra, Text.bytes_append (head ++ lead)] at hbytes
      omega
    rw [hextra, hnil, List.append_nil]
  refine ⟨front, quote, content, hparts, hopens, ?_⟩
  rcases cut_or_outside hmarks htop hopens.is_quote (hbefore.symm.trans hparts) with
    hcut | ⟨opening, hfront, hopen, hdepth⟩
  · exact .inl hcut
  · have hinhead : opening <+: h.prelude := hopen.trans ⟨_, hprelude.symm⟩
    refine .inr ⟨h, hmem, hrule, opening, hinhead, ?_, hdepth⟩
    rw [hfront, hstart, Text.bytes_append, Nat.zero_add]

namespace Sample

/-- The brace in the string makes a head of the declaration it stands in. -/
def braceSheet : Text := "p::before \x7b content: \".x \x7b\" \x7d".toList

/-- The semicolon in the string begins a head. -/
def semicolonSheet : Text := "p \x7b content: \";.x \x7b\" \x7d".toList

/-- The bracket in the string closes the one around the string. -/
def bracketSheet : Text := "[a=\").x\"] \x7b\x7d".toList

end Sample

theorem strings_that_define_classes_brace :
    ∃ d ∈ definitions Sample.braceSheet, quotingAfter (Sample.braceSheet.take d.offset) ≠ .outside ∧
      ∃ front quote content, Sample.braceSheet.take d.offset = front ++ quote :: content ∧
        OpensString front quote content ∧ ((∃ c ∈ content, IsCut c) ∨
          ∃ h ∈ heads (stripComments Sample.braceSheet),
            d ∈ ruleDefinitions Sample.braceSheet (stripComments Sample.braceSheet) h ∧
            OutsideBrackets h (Text.bytes front)) := by
  let d : Definition := ⟨['x'], ⟨[]⟩, 1, ⟨[]⟩, Sample.braceSheet.drop 12, 22⟩
  have hd : d ∈ definitions Sample.braceSheet := List.mem_singleton.mpr rfl
  have hinside : quotingAfter (Sample.braceSheet.take 22) ≠ .outside := by decide
  have htext : stripComments Sample.braceSheet =
      Sample.braceSheet.take 22 ++ Sample.braceSheet.drop 22 := rfl
  exact ⟨d, hd, hinside, strings_that_define_classes hd htext rfl hinside⟩

/-- Classes are defined by strings that hold a brace, a semicolon or a bracket. -/
theorem class_in_string :
    (definitions Sample.braceSheet).map (fun d => (d.name, d.offset)) = [(['x'], 22)] ∧
    quotingAfter (Sample.braceSheet.take 22) = .inside '"' ∧
    (definitions Sample.semicolonSheet).map (fun d => (d.name, d.offset)) = [(['x'], 15)] ∧
    quotingAfter (Sample.semicolonSheet.take 15) = .inside '"' ∧
    (definitions Sample.bracketSheet).map (fun d => (d.name, d.offset)) = [(['x'], 5)] ∧
    quotingAfter (Sample.bracketSheet.take 5) = .inside '"' := by
  decide +kernel

end Stylesheet

end ClassLens
