import ClassLens.Proofs.Stylesheet.Classes
import ClassLens.Proofs.Stylesheet.Comments
/-
  Offsets — the token of a class, in the text without comments and in the file

  The offset of a definition counts the bytes before the dot of its class.
  Blanking comments moves nothing, so dot and name stand at the same offset of
  the file's own text, on the same line, and a file can be cut there.

  What is proved:
    1. `mem_headsFrom_parts` — where the head of a block stands;
    2. `classAt_of_mem_definitions` — a definition in the text without comments;
    3. `exists_token` — its token in the text itself;
    4. `Sheet.columnOf_eq`, `Sheet.columnOf_eq_ok` — a definition has a column
       in its sheet.
-/

namespace ClassLens

namespace Stylesheet

/-- A head stands at the start of its text, or behind a brace or a semicolon. -/
theorem mem_headsFrom_parts {start : Nat} {run cs : Text} {h : Head}
    (hmem : h ∈ headsFrom start run cs) :
    ∃ before, run.reverse ++ cs = before ++ (h.prelude ++ '{' :: h.rest) ∧
      h.start = start + Text.bytes before ∧
      ∀ mark ∈ before.getLast?, mark = '{' ∨ mark = '}' ∨ mark = ';' := by
  -- `run` is what was read of the current stretch, so a cut puts it before all that follows
  induction cs generalizing start run with
  | nil => cases hmem
  | cons c cs ih =>
    have hlater : c = '{' ∨ c = '}' ∨ c = ';' →
        h ∈ headsFrom (start + Text.bytes run + 1) [] cs →
        ∃ before, run.reverse ++ c :: cs = before ++ (h.prelude ++ '{' :: h.rest) ∧
          h.start = start + Text.bytes before ∧
          ∀ mark ∈ before.getLast?, mark = '{' ∨ mark = '}' ∨ mark = ';' := by
      intro hcut hmem
      have hsize : c.utf8Size = 1 := by rcases hcut with rfl | rfl | rfl <;> rfl
      obtain ⟨before, hparts, hstart, hmarks⟩ := ih hmem
      refine ⟨run.reverse ++ c :: before, ?_, ?_, ?_⟩
      · simpa using hparts
      · rw [hstart, Text.bytes_append, Text.bytes_reverse, Text.bytes_cons]
        omega
      · intro mark hmark
        rw [List.getLast?_append, List.getLast?_cons, Option.some_or] at hmark
        cases hlast : before.getLast? with
        | none =>
          rw [hlast] at hmark
          cases hmark
          exact hcut
        | some last =>
          rw [hlast] at hmark
          cases hmark
          exact hmarks last hlast
    unfold headsFrom at hmem
    split at hmem
    · rename_i hbrace
      rcases List.mem_cons.mp hmem with rfl | hmem
      · exact ⟨[], by simp [hbrace], by simp, by simp⟩
      · exact hlater (.inl hbrace) hmem
    · split at hmem
      · rename_i hcut
        exact hlater (.inr hcut) hmem
      · obtain ⟨before, hparts, hstart⟩ := ih hmem
        exact ⟨before, by simpa using hparts, hstart⟩

/-! ## Lines -/

theorem newlinesBefore_append (start : Nat) (a b : Text) :
    Text.newlinesBefore (start + Text.bytes a) start (a ++ b) = Text.newlines a := by
  induction a generalizing start with
  | nil => cases b <;> simp [Text.newlinesBefore, Text.newlines]
  | cons c a ih =>
    have hpos := Char.utf8Size_pos c
    have hcount : Text.newlines (c :: a) = (if c = '\n' then 1 else 0) + Text.newlines a := by
      unfold Text.newlines
      rw [List.count_cons]
      simp [Nat.add_comm]
    rw [List.cons_append, Text.newlinesBefore, if_pos (by rw [Text.bytes_cons]; omega),
      Text.bytes_cons, ← Nat.add_assoc, ih, hcount]

theorem line_of_mem_ruleDefinitions {css stripped : Text} {h : Head} {d : Definition}
    (hd : d ∈ ruleDefinitions css stripped h) : d.line = lineAt stripped d.offset := by
  obtain ⟨relative, -, heq⟩ := eq_of_mem_ruleDefinitions hd
  rw [heq]

/-! ## Tokens -/

/-- A stylesheet writes the class of a definition between two parts of its
text: a dot and the name, outside comments. -/
structure Token (css : Text) (d : Definition) (before after : Text) : Prop where
  text_eq : css = before ++ '.' :: (d.name ++ after)
  offset_eq : d.offset = Text.bytes before
  ends : Ends after
  /-- No byte of dot and name is blanked. -/
  outside : ∀ n, d.offset ≤ n → n ≤ d.offset + Text.bytes d.name → n ∉ commentBytes css
  /-- So they are still there in the text without comments. -/
  kept : ClassAt (stripComments css) d.offset d.name
  line_eq : d.line = 1 + Text.newlines before

/-- In the text without comments a definition stands at its offset. -/
theorem classAt_of_mem_definitions {css : Text} {d : Definition} (h : d ∈ definitions css) :
    ClassAt (stripComments css) d.offset d.name ∧ d.line = lineAt (stripComments css) d.offset := by
  obtain ⟨head, hhead, hd⟩ := List.mem_flatMap.mp h
  obtain ⟨relative, hclass, hoffset⟩ := mem_ruleDefinitions hd
  obtain ⟨before, hparts, hstart, -⟩ := mem_headsFrom_parts hhead
  refine ⟨?_, line_of_mem_ruleDefinitions hd⟩
  -- an opening brace ends a name at the very end of the selector list
  have hembed := (classAt_of_mem_selectorClasses hclass).embed before
    (ends_cons (c := '{') rfl head.rest)
  rw [← hparts, List.reverse_nil, List.nil_append] at hembed
  rw [hoffset, hstart, Nat.zero_add]
  exact hembed

theorem not_blank_of_isPart {c : Char} (h : ClassName.isPart c = true) : c ≠ '\n' ∧ c ≠ ' ' := by
  constructor <;> rintro rfl <;> cases h

/-- What ends a kept word in the blanked text ends it in the text as well. -/
theorem ends_of_marksFrom {mode : CommentMode} {css word : Text} {before after : List (Char × Bool)}
    (hword : word ≠ []) (h : marksFrom mode css = before ++ (word.map (·, true) ++ after))
    (hends : Ends (after.flatMap remains)) : Ends (after.map (·.1)) := by
  cases after with
  | nil => exact ends_nil
  | cons m after =>
    obtain ⟨c, kept⟩ := m
    cases kept with
    | true => exact ends_cons (hends c rfl) _
    | false =>
      -- a comment behind the word starts with its slash
      obtain ⟨init, last, rfl⟩ : ∃ init last, word = init ++ [last] :=
        ⟨_, _, (List.dropLast_concat_getLast hword).symm⟩
      have hcomment : marksFrom mode css =
          (before ++ init.map (·, true)) ++ (last, true) :: (c, false) :: after := by
        rw [h]
        simp
      exact ends_cons (by rw [slash_of_marksFrom hcomment]; rfl) _

theorem exists_token {css : Text} {d : Definition} (h : d ∈ definitions css) :
    ∃ before after, Token css d before after := by
  obtain ⟨⟨hvalid, pre, post, hparts, hoffset, hpost⟩, hline⟩ := classAt_of_mem_definitions h
  -- the dot and the name, found in the blanked text, are both made of characters that were kept
  have hmarks : (marksFrom (.code true) css).flatMap remains = pre ++ '.' :: (d.name ++ post) := by
    rw [← stripFrom_eq]
    exact hparts
  obtain ⟨before, behind, hdot, hbefore, hbehind⟩ :=
    flatMap_remains_parts ⟨by decide, by decide⟩ hmarks
  obtain ⟨after, rfl, hafter⟩ :=
    flatMap_remains_word (fun c hc => not_blank_of_isPart (isPart_of_mem hvalid hc)) hbehind
  have htoken : marksFrom (.code true) css =
      before ++ (('.' :: d.name).map (·, true) ++ after) := hdot
  have hbytes : d.offset = Text.bytes (before.map (·.1)) := by
    rw [← hoffset, ← hbefore, bytes_flatMap_remains]
  refine ⟨before.map (·.1), after.map (·.1), ?text_eq, hbytes, ?ends, ?outside,
    (classAt_of_mem_definitions h).1, ?line_eq⟩
  case text_eq =>
    rw [← map_fst_marksFrom (.code true) css, htoken, List.map_append, List.map_append,
      map_fst_kept, List.cons_append]
  case ends =>
    exact ends_of_marksFrom (List.cons_ne_nil '.' d.name) htoken (hafter ▸ hpost)
  case outside =>
    intro n hfrom hto
    have hsize : Text.bytes ('.' :: d.name) = 1 + Text.bytes d.name := rfl
    unfold commentBytes
    rw [htoken]
    exact not_mem_blankBytes (by omega) (by omega)
  case line_eq =>
    have hbreaks := newlinesBefore_append 0 pre ('.' :: (d.name ++ post))
    rw [← hparts, Nat.zero_add, hoffset] at hbreaks
    rw [hline, lineAt, hbreaks, ← hbefore, newlines_flatMap_remains]

theorem Token.inFile {css : Text} {d : Definition} {before after : Text}
    (token : Token css d before after) (path : Path) : Token css (d.inFile path) before after :=
  ⟨token.text_eq, token.offset_eq, token.ends, token.outside, token.kept, token.line_eq⟩

end Stylesheet

namespace Sheet

theorem columnOf_eq {s : Sheet} {d : Definition} {before after : Text}
    (token : Stylesheet.Token s.content d before after) :
    s.columnOf d = .ok (Text.units (before.reverse.takeWhile (· ≠ '\n'))) := by
  have hmin : min d.offset (Text.bytes s.content) = Text.bytes before := by
    rw [token.offset_eq, token.text_eq, Text.bytes_append]
    omega
  unfold columnOf
  rw [hmin, token.text_eq, Text.cut?_append]

theorem exists_token {s : Sheet} (hs : s.IsBuilt) {name : Text} {d : Definition}
    (hd : d ∈ s.occurrencesOf name) :
    d.file = s.path ∧ d.name = name ∧
      ∃ before after, Stylesheet.Token s.content d before after := by
  rw [hs, occurrencesOf_build] at hd
  obtain ⟨d', hd', rfl⟩ := List.mem_map.mp hd
  obtain ⟨hmem, hname⟩ := List.mem_filter.mp hd'
  obtain ⟨before, after, token⟩ := Stylesheet.exists_token hmem
  exact ⟨rfl, of_decide_eq_true hname, before, after, token.inFile s.path⟩

theorem columnOf_eq_ok {s : Sheet} (hs : s.IsBuilt) {name : Text} {d : Definition}
    (hd : d ∈ s.occurrencesOf name) : d.file = s.path ∧ ∃ column, s.columnOf d = .ok column := by
  obtain ⟨hfile, -, before, after, token⟩ := exists_token hs hd
  exact ⟨hfile, _, columnOf_eq token⟩

end Sheet

end ClassLens
