import ClassLens.Proofs.Stylesheet.Nesting
import ClassLens.Proofs.Stylesheet.SelectorCuts
/-
  Verbatim — every definition holds its rule as it is written

  The scans for rules run on the text without comments, but the text of a rule
  is cut out of the stylesheet itself, at the offsets found there. Offsets count
  bytes, and a byte offset may fall inside a character. It never does: a rule
  starts and ends with characters that blanking comments has kept. So the
  stylesheet gives all cuts, and each definition holds its rule from the first
  character of its selectors through the closing brace, comments included.

  What is proved:
    1. `matchingBrace_brace`, `slice?_body` — where the block of a head ends;
    2. `exists_written` — the text of a rule in the stylesheet itself;
    3. `ruleDefinitions?_eq`, `extract?_eq` — extraction with every cut checked;
    4. `exists_holdsRule` — a definition and its rule;
    5. `extract_keeps_source` — extraction gets through and keeps the text of
       every rule.
-/

namespace ClassLens

theorem Text.fromOffset_append (start : Nat) (a b : Text) :
    fromOffset (start + bytes a) start (a ++ b) = (start + bytes a, b) := by
  induction a generalizing start with
  | nil => cases b <;> simp [fromOffset]
  | cons c a ih =>
    have hpos := Char.utf8Size_pos c
    rw [List.cons_append, fromOffset, if_pos (by rw [bytes_cons]; omega), bytes_cons,
      ← Nat.add_assoc, ih]

theorem Text.bytes_le_trimStart (before after : Text) {c : Char} (hc : isBlank c = false) :
    bytes (c :: after) ≤ bytes (trimStart (before ++ c :: after)) := by
  induction before with
  | nil => simp [trimStart, hc]
  | cons b before ih =>
    cases hb : isBlank b with
    | true => simpa [trimStart, hb] using ih
    | false =>
      simp only [trimStart, List.cons_append, List.dropWhile_cons, hb, Bool.false_eq_true, if_false,
        bytes_cons, bytes_append]
      omega

namespace Stylesheet

/-! ## Extraction by cuts -/

/-- The text with its comments blanked in place. -/
def stripped? (css : Text) : Option Text :=
  (stripBytes? css).map fun out => (Utf8.decode? out).getD (Utf8.lossy out)

/-- The definitions that one block of the stylesheet `css` makes, everything cut
out by byte offsets: what the classes and the declarations are read from out of
`stripped`, the text of the rule out of `css`, with the blanked text cut out to
fall back on. -/
def ruleDefinitions? (css stripped : Text) (h : Head) : Option (List Definition) := do
  let prelude ← Text.slice? h.start h.brace stripped
  let selector := Text.trimStart prelude
  if selector.head? == some '@' then return []
  let defined ← selectorClasses? prelude
  if defined.isEmpty then return []
  let close := matchingBrace stripped h.brace
  let body ← Text.slice? (h.brace + 1) (close.getD (Text.bytes stripped)) stripped
  let start := h.start + (Text.bytes prelude - Text.bytes selector)
  let stop := (close.map (· + 1)).getD (Text.bytes stripped)
  let fallback ← Text.slice? start stop stripped
  let source := (Text.slice? start stop css).getD fallback
  return defined.filterMap fun (relative, name) =>
    let offset := h.start + relative
    match Definition.create name ⟨[]⟩ (lineAt stripped offset) (declarations body) source with
    | .ok d => some (d.atOffset offset)
    | .error _ => none

/-- The classes of a stylesheet, unless a cut is refused. -/
def extract? (css : Text) : Option Classes := do
  let stripped ← stripped? css
  let made ← (heads stripped).mapM (ruleDefinitions? css stripped)
  return made.flatten.foldl Classes.add Classes.empty

theorem stripped?_eq (css : Text) : stripped? css = some (stripComments css) := by
  simp [stripped?, stripBytes?_eq, Utf8.decode?_encode]

/-! ## Where the block of a head ends -/

theorem closeBlock_parts {depth : Nat} {quoting : Quoting} {cs : Text} {r : Text × Text}
    (h : closeBlock depth quoting cs = some r) : cs = r.1 ++ '}' :: r.2 := by
  induction cs generalizing depth quoting r with
  | nil => simp [closeBlock] at h
  | cons c cs ih =>
    unfold closeBlock at h
    split at h
    · rename_i hclose
      cases h
      simp [hclose.2.1]
    · obtain ⟨r', hr', rfl⟩ := Option.map_eq_some_iff.mp h
      rw [ih hr', List.cons_append]

section

variable {stripped : Text} {h : Head}

theorem matchingBrace_brace (hmem : h ∈ heads stripped) :
    matchingBrace stripped h.brace =
      (closeBlock 1 .outside h.rest).map fun r => h.brace + 1 + Text.bytes r.1 := by
  obtain ⟨before, hparts, hstart⟩ := parts_of_mem_heads hmem
  have hfrom := Text.fromOffset_append 0 (before ++ h.prelude) ('{' :: h.rest)
  rw [Text.bytes_append, Nat.zero_add, ← hstart, List.append_assoc, ← hparts] at hfrom
  have hopen : closeBlock 0 .outside ('{' :: h.rest) =
      (closeBlock 1 .outside h.rest).map fun r => ('{' :: r.1, r.2) := by
    simp [closeBlock, Quoting.next]
  have hbrace : h.brace = h.start + Text.bytes h.prelude := rfl
  have hsize : Char.utf8Size '{' = 1 := rfl
  unfold matchingBrace
  simp only [hbrace, hfrom, hopen, Option.map_map, Function.comp_def, Text.bytes_cons, hsize]
  congr 1
  funext r
  omega

theorem bodyEnd_eq (hmem : h ∈ heads stripped) :
    (matchingBrace stripped h.brace).getD (Text.bytes stripped) = h.bodyEnd := by
  rw [matchingBrace_brace hmem, bytes_of_mem_heads hmem, Head.bodyEnd, Head.body]
  cases closeBlock 1 .outside h.rest <;> rfl

theorem stop_eq (hmem : h ∈ heads stripped) :
    ((matchingBrace stripped h.brace).map (· + 1)).getD (Text.bytes stripped) = h.stop := by
  rw [matchingBrace_brace hmem, bytes_of_mem_heads hmem, Head.stop, Head.isClosed, Head.bodyEnd,
    Head.body]
  cases closeBlock 1 .outside h.rest <;> rfl

theorem slice?_prelude (hmem : h ∈ heads stripped) :
    Text.slice? h.start h.brace stripped = some h.prelude := by
  obtain ⟨before, hparts, hstart⟩ := parts_of_mem_heads hmem
  rw [Head.brace, hstart, hparts]
  exact Text.slice?_append before h.prelude ('{' :: h.rest)

theorem rest_parts (h : Head) :
    ∃ closing behind, h.rest = h.body ++ (closing ++ behind) ∧
      h.bodyEnd + Text.bytes closing = h.stop := by
  unfold Head.stop Head.isClosed Head.bodyEnd Head.body
  cases hclose : closeBlock 1 .outside h.rest with
  | none => exact ⟨[], [], by simp, rfl⟩
  | some r => exact ⟨['}'], r.2, closeBlock_parts hclose, rfl⟩

theorem slice?_body (hmem : h ∈ heads stripped) :
    Text.slice? (h.brace + 1) h.bodyEnd stripped = some h.body := by
  obtain ⟨before, hparts, hstart⟩ := parts_of_mem_heads hmem
  obtain ⟨closing, behind, hrest, -⟩ := rest_parts h
  have hbrace : h.brace + 1 = Text.bytes (before ++ (h.prelude ++ ['{'])) := by
    rw [Head.brace, hstart, Text.bytes_append, Text.bytes_append, Nat.add_assoc]
    rfl
  have hwhole : stripped = (before ++ (h.prelude ++ ['{'])) ++
      (h.body ++ (closing ++ behind)) := by
    rw [← hrest, hparts]
    simp
  have hcut := Text.slice?_append (before ++ (h.prelude ++ ['{'])) h.body (closing ++ behind)
  rw [← hwhole, ← hbrace] at hcut
  exact hcut

theorem selector_parts {first : Char} {selector : Text} (hmem : h ∈ heads stripped)
    (htrim : Text.trimStart h.prelude = first :: selector) :
    ∃ before, stripped = before ++ first :: (selector ++ '{' :: h.rest) ∧
      Text.bytes before = h.selectorStart ∧
      Text.bytes before + Text.bytes (first :: selector) = h.brace ∧
      Text.isBlank first = false := by
  obtain ⟨pre, hparts, hstart⟩ := parts_of_mem_heads hmem
  obtain ⟨blanks, -, hprelude, hblank⟩ := Text.trimStart_parts h.prelude
  rw [htrim] at hprelude hblank
  have hbytes : Text.bytes h.prelude = Text.bytes blanks + Text.bytes (first :: selector) := by
    rw [hprelude, Text.bytes_append]
  refine ⟨pre ++ blanks, ?_, ?_, ?_, hblank first rfl⟩
  · rw [hparts, hprelude]
    simp
  · rw [Head.selectorStart, htrim, hstart, Text.bytes_append]
    omega
  · rw [Head.brace, hstart, hbytes, Text.bytes_append, Nat.add_assoc]

theorem exists_slice?_block {first : Char} {selector : Text} (hmem : h ∈ heads stripped)
    (htrim : Text.trimStart h.prelude = first :: selector) :
    ∃ block, Text.slice? h.selectorStart h.stop stripped = some block := by
  obtain ⟨before, hparts, hstart, hbrace, -⟩ := selector_parts hmem htrim
  obtain ⟨closing, behind, hrest, hstop⟩ := rest_parts h
  have hblock : h.stop =
      Text.bytes before + Text.bytes ((first :: selector) ++ '{' :: (h.body ++ closing)) := by
    have hone : Char.utf8Size '{' = 1 := rfl
    rw [← hstop, Head.bodyEnd, ← hbrace, Text.bytes_append, Text.bytes_cons '{', hone,
      Text.bytes_append]
    omega
  have hcut := Text.slice?_append before ((first :: selector) ++ '{' :: (h.body ++ closing)) behind
  rw [← hblock, hstart] at hcut
  refine ⟨_, Eq.trans ?_ hcut⟩
  rw [hparts, hrest]
  simp

end

/-! ## The text of a rule -/

/-- A rule of a stylesheet, as it is written between two parts of the text:
from the first character of its selectors that is no blank through the brace
that closes its block, or to the end when nothing closes it. -/
structure Written (css : Text) (h : Head) (before source after : Text) : Prop where
  text_eq : css = before ++ (source ++ after)
  start_eq : Text.bytes before = h.selectorStart
  first_eq : source.head? = (Text.trimStart h.prelude).head?
  closed : ∀ close, matchingBrace (stripComments css) h.brace = some close →
    Text.bytes before + Text.bytes source = close + 1 ∧ source.getLast? = some '}'
  unclosed : matchingBrace (stripComments css) h.brace = none → after = []

theorem Written.stop_eq {css before source after : Text} {h : Head}
    (hmem : h ∈ heads (stripComments css)) (w : Written css h before source after) :
    Text.bytes before + Text.bytes source = h.stop := by
  rw [← Stylesheet.stop_eq hmem]
  cases hclose : matchingBrace (stripComments css) h.brace with
  | some close => exact (w.closed close hclose).1
  | none =>
    have hbytes : Text.bytes (stripComments css) = Text.bytes css := by
      show Text.bytes (stripFrom (.code true) css) = _
      rw [stripFrom_eq, bytes_flatMap_remains, map_fst_marksFrom]
    have htext := congrArg Text.bytes w.text_eq
    rw [w.unclosed hclose, List.append_nil, Text.bytes_append] at htext
    show _ = Text.bytes (stripComments css)
    rw [hbytes, htext]

/-- The stylesheet can be cut where a rule starts and where it ends. -/
theorem Written.slice?_eq {css before source after : Text} {h : Head}
    (hmem : h ∈ heads (stripComments css)) (w : Written css h before source after) :
    Text.slice? h.selectorStart h.stop css = some source := by
  have hcut := Text.slice?_append before source after
  rw [← w.text_eq, w.stop_eq hmem, w.start_eq] at hcut
  exact hcut

theorem exists_written {css : Text} {h : Head} (hmem : h ∈ heads (stripComments css))
    (hne : Text.trimStart h.prelude ≠ []) :
    ∃ before source after, Written css h before source after := by
  obtain ⟨first, selector, htrim⟩ := List.exists_cons_of_ne_nil hne
  obtain ⟨pre, hparts, hpre, hbrace, hblank⟩ := selector_parts hmem htrim
  have hclose := matchingBrace_brace hmem
  have hfirst : ∀ tail : Text, (first :: tail).head? = (Text.trimStart h.prelude).head? := by
    intro tail
    rw [htrim]
    rfl
  -- the first character is no blank, so it was kept
  have hkept : first ≠ '\n' ∧ first ≠ ' ' := by
    constructor <;> rintro rfl <;> cases hblank
  have hmarks := (stripFrom_eq (.code true) css).symm.trans hparts
  have hcss := map_fst_marksFrom (.code true) css
  obtain ⟨before, after, hsplit, hbefore, hafter⟩ := flatMap_remains_parts hkept hmarks
  rw [hsplit, List.map_append, List.map_cons] at hcss
  have hstart : Text.bytes (before.map (·.1)) = h.selectorStart := by
    rw [← bytes_flatMap_remains, hbefore, hpre]
  cases hend : closeBlock 1 .outside h.rest with
  | none =>
    rw [hend, Option.map_none] at hclose
    refine ⟨before.map (·.1), first :: after.map (·.1), [], ?_, hstart, hfirst _, ?_, fun _ => rfl⟩
    · rw [List.append_nil, hcss]
    · intro close hsome
      exact absurd (hclose.symm.trans hsome) (by simp)
  | some r =>
    rw [hend, Option.map_some] at hclose
    -- the brace that closes the block was kept as well
    have hbrace' : '}' ≠ '\n' ∧ '}' ≠ ' ' := by decide
    have hblock : after.flatMap remains = (selector ++ '{' :: r.1) ++ '}' :: r.2 := by
      rw [hafter, closeBlock_parts hend, List.append_assoc, List.cons_append]
    obtain ⟨inner, rest, rfl, hinner, -⟩ := flatMap_remains_parts hbrace' hblock
    have hsize : Text.bytes (inner.map (·.1)) = Text.bytes selector + (1 + Text.bytes r.1) := by
      rw [← bytes_flatMap_remains, hinner, Text.bytes_append, Text.bytes_cons]
      rfl
    refine ⟨before.map (·.1), first :: (inner.map (·.1) ++ ['}']), rest.map (·.1), ?_, hstart,
      hfirst _, ?_, ?_⟩
    · rw [← hcss]
      simp
    · intro close hsome
      obtain rfl := Option.some.inj (hclose.symm.trans hsome)
      refine ⟨?_, by rw [← List.cons_append, List.getLast?_concat]⟩
      have hone : Text.bytes ['}'] = 1 := rfl
      rw [Text.bytes_cons] at hbrace
      rw [Text.bytes_cons, Text.bytes_append, hone, hsize, ← hbrace, hpre, hstart]
      omega
    · intro hnone
      exact absurd (hclose.symm.trans hnone) (by simp)

/-- The dot of a class is no earlier than the rule that defines it. -/
theorem selectorStart_le_offset {css stripped : Text} {h : Head} {d : Definition}
    (hd : d ∈ ruleDefinitions css stripped h) : h.selectorStart ≤ d.offset := by
  obtain ⟨relative, hclass, hoffset⟩ := mem_ruleDefinitions hd
  obtain ⟨-, before, after, hprelude, hrelative, -⟩ := classAt_of_mem_selectorClasses hclass
  have hdot : Text.isBlank '.' = false := rfl
  have hbound := Text.bytes_le_trimStart before (d.name ++ after) hdot
  rw [← hprelude] at hbound
  have hbytes : Text.bytes h.prelude = relative + Text.bytes ('.' :: (d.name ++ after)) := by
    rw [hprelude, Text.bytes_append, hrelative]
  unfold Head.selectorStart
  omega

theorem trimStart_ne_nil {list : Text} {offset : Nat} {name : Text}
    (h : (offset, name) ∈ selectorClasses list) : Text.trimStart list ≠ [] := by
  obtain ⟨-, before, after, rfl, -, -⟩ := classAt_of_mem_selectorClasses h
  have hdot : Text.isBlank '.' = false := rfl
  have hbound := Text.bytes_le_trimStart before (name ++ after) hdot
  intro hnil
  rw [hnil, Text.bytes_cons, Text.bytes_nil] at hbound
  have hpos := Char.utf8Size_pos '.'
  omega

theorem ruleDefinitions?_eq {css : Text} {h : Head} (hmem : h ∈ heads (stripComments css)) :
    ruleDefinitions? css (stripComments css) h =
      some (ruleDefinitions css (stripComments css) h) := by
  simp only [ruleDefinitions?, ruleDefinitions, Head.isAtRule, slice?_prelude hmem,
    selectorClasses?_eq, bodyEnd_eq hmem, slice?_body hmem, stop_eq hmem, Option.bind_eq_bind,
    Option.bind_some]
  split
  · rfl
  cases hclasses : selectorClasses h.prelude with
  | nil => rfl
  | cons c classes =>
    have hmem' : (c.1, c.2) ∈ selectorClasses h.prelude := by
      rw [hclasses]
      exact List.mem_cons_self
    have hne := trimStart_ne_nil hmem'
    obtain ⟨first, selector, htrim⟩ := List.exists_cons_of_ne_nil hne
    obtain ⟨block, hblock⟩ := exists_slice?_block hmem htrim
    have hstart : h.start + (Text.bytes h.prelude - Text.bytes (Text.trimStart h.prelude)) =
        h.selectorStart := rfl
    simp only [hstart, hblock, Option.bind_some, Option.getD_some]
    rfl

theorem extract?_eq (css : Text) : extract? css = some (extract css) := by
  unfold extract? extract definitions
  rw [stripped?_eq, Option.bind_eq_bind, Option.bind_some,
    mapM_eq_some_map fun h hmem => ruleDefinitions?_eq hmem, List.flatMap_def]
  rfl

/-! ## Definitions hold their rules -/

theorem source_of_mem_ruleDefinitions {css stripped : Text} {h : Head} {d : Definition}
    (hd : d ∈ ruleDefinitions css stripped h) {source : Text}
    (hcut : Text.slice? h.selectorStart h.stop css = some source) : d.source = source := by
  obtain ⟨relative, -, heq⟩ := eq_of_mem_ruleDefinitions hd
  rw [heq, hcut]
  rfl

/-- A definition and its rule: the rule is what the definition holds, it was
cut out of the stylesheet itself, and the dot of the class is inside it. -/
structure HoldsRule (css : Text) (d : Definition) (h : Head) (before after : Text) : Prop where
  mem_heads : h ∈ heads (stripComments css)
  mem_definitions : d ∈ ruleDefinitions css (stripComments css) h
  written : Written css h before d.source after
  cut_eq : Text.slice? h.selectorStart h.stop css = some d.source
  start_le : Text.bytes before ≤ d.offset
  lt_stop : d.offset < Text.bytes before + Text.bytes d.source

theorem exists_holdsRule {css : Text} {d : Definition} (hd : d ∈ definitions css) :
    ∃ h before after, HoldsRule css d h before after := by
  obtain ⟨h, hmem, hrule⟩ := List.mem_flatMap.mp hd
  obtain ⟨relative, hclass, -⟩ := mem_ruleDefinitions hrule
  obtain ⟨before, source, after, w⟩ := exists_written hmem (trimStart_ne_nil hclass)
  have hcut := w.slice?_eq hmem
  obtain rfl := source_of_mem_ruleDefinitions hrule hcut
  refine ⟨h, before, after, hmem, hrule, w, hcut, ?_, ?_⟩
  · rw [w.start_eq]
    exact selectorStart_le_offset hrule
  · -- the dot is before the opening brace, and the rule goes on behind that
    have hbrace := (offset_mem_head hrule).2
    rw [w.stop_eq hmem]
    unfold Head.stop Head.bodyEnd
    split <;> omega

theorem mem_definitions_of_get? {css name : Text} {d : Definition}
    (hd : d ∈ ((extract css).all.get? name).getD [] ∨ (extract css).first.get? name = some d) :
    d ∈ definitions css := by
  rcases hd with hall | hfirst
  · have hlist : ((extract css).all.get? name).getD [] = (definitions css).filter (·.name = name) :=
      all_foldl_add (definitions css) .empty name
    rw [hlist] at hall
    exact (List.mem_filter.mp hall).1
  · rw [get?_first_extract] at hfirst
    exact (List.mem_filter.mp (List.mem_of_mem_head? hfirst)).1

end Stylesheet

/-- The media query around a definition of this sheet, with every cut checked. -/
def Sheet.mediaQueryOf? (s : Sheet) (d : Definition) : Option (Option Text) :=
  (Stylesheet.stripped? s.content).map fun stripped => Stylesheet.mediaQueryAt stripped d.offset

open Stylesheet in
/-- Extraction is refused no cut, each definition holds its rule as it is
written, and the definitions of a sheet have their media queries and columns. -/
theorem Stylesheet.extract_keeps_source (css : Text) :
    extract? css = some (extract css) ∧
    (∀ name d,
      d ∈ ((extract css).all.get? name).getD [] ∨ (extract css).first.get? name = some d →
      ∃ h before after, HoldsRule css d h before after) ∧
    ∀ path modified name, ∀ d ∈ (Sheet.build css path modified).occurrencesOf name,
      (Sheet.build css path modified).mediaQueryOf? d =
        some ((Sheet.build css path modified).mediaQueryOf d) ∧
      ∃ column, (Sheet.build css path modified).columnOf d = .ok column := by
  refine ⟨extract?_eq css, fun name d hd => exists_holdsRule (mem_definitions_of_get? hd), ?_⟩
  intro path modified name d hd
  have hbuilt : (Sheet.build css path modified).IsBuilt := rfl
  refine ⟨?_, (Sheet.columnOf_eq_ok hbuilt hd).2⟩
  unfold Sheet.mediaQueryOf? Sheet.mediaQueryOf
  rw [stripped?_eq]
  rfl

end ClassLens
