import ClassLens.Proofs.Stylesheet.Classes
import ClassLens.Proofs.Stylesheet.Rendering
import ClassLens.Proofs.Stylesheet.Subjects
import Mathlib.Data.List.Basic
/-
  Structure — parsing the text of a tree gives back the tree

  Heads are found by one scan, the ends of their blocks by another, and the
  media query around a class by a third that starts from its offset. On the
  text of a tree all of them agree with the tree.

  What is proved:
    1. `headsFrom_render` — the heads of the text are those of the tree;
    2. `flatMap_ruleDefinitions` — every rule defines what the tree says;
    3. `getLast?_enclosing` — the media query around a class is the innermost
       one of the tree;
    4. `Tree.recovered` — the sheet of a tree's text.
-/

namespace ClassLens

namespace Stylesheet

/-! ## Heads -/

/-- The heads of a tree whose text starts at a byte offset and goes on with `more`. -/
def Tree.heads (start : Nat) (more : Text) : Tree → List Head
  | .done _ => []
  | .rule selectors body next =>
    ⟨start, selectors.text, bodyText body ++ '}' :: (next.render ++ more)⟩ ::
      next.heads (start + Text.bytes selectors.text + 1 + Text.bytes (bodyText body) + 1) more
  | .block head inner next =>
    ⟨start, head.text, inner.render ++ '}' :: (next.render ++ more)⟩ ::
      (inner.heads (start + Text.bytes head.text + 1) ('}' :: (next.render ++ more)) ++
        next.heads (start + Text.bytes head.text + 1 + Text.bytes inner.render + 1) more)

theorem bytes_block (a b c : Text) :
    Text.bytes (a ++ '{' :: (b ++ '}' :: c)) =
      Text.bytes a + 1 + Text.bytes b + 1 + Text.bytes c := by
  have hopen : Char.utf8Size '{' = 1 := rfl
  have hclose : Char.utf8Size '}' = 1 := rfl
  simp only [Text.bytes_append, Text.bytes_cons, hopen, hclose]
  omega

/-- The heads behind a tree: none at the end, or those behind a closing brace. -/
def headsBehind (start : Nat) : Text → List Head
  | [] => []
  | _ :: more => headsFrom (start + 1) [] more

/-- The scan for heads finds those of the tree, and then goes on behind it. -/
theorem headsFrom_render (t : Tree) (start : Nat) {more : Text}
    (hmore : more = [] ∨ ∃ rest, more = '}' :: rest) :
    headsFrom start [] (t.render ++ more) =
      t.heads start more ++ headsBehind (start + Text.bytes t.render) more := by
  induction t generalizing start more with
  | done space =>
    rw [Tree.render, headsFrom_flat space.unmarked.flat, List.append_nil]
    rcases hmore with rfl | ⟨rest, rfl⟩
    · rfl
    · simp [headsFrom, Tree.heads, headsBehind, Text.bytes_reverse]
  | rule selectors body next ih =>
    have hflat : ∀ c ∈ bodyText body, c ≠ '{' ∧ c ≠ '}' := fun c hc =>
      have hne := bodyText_flat body c hc
      ⟨hne.1, hne.2.1⟩
    have hsize : start + Text.bytes (Tree.rule selectors body next).render =
        start + Text.bytes selectors.text + 1 + Text.bytes (bodyText body) + 1 +
          Text.bytes next.render := by
      rw [Tree.render, bytes_block]
      omega
    rw [hsize]
    simp only [Tree.render, List.append_assoc, List.cons_append]
    rw [headsFrom_head selectors.unmarked.flat, headsFrom_body hflat, Text.bytes_nil, Nat.add_zero,
      ih _ hmore]
    rfl
  | block head inner next ih_inner ih_next =>
    have hsize : start + Text.bytes (Tree.block head inner next).render =
        start + Text.bytes head.text + 1 + Text.bytes inner.render + 1 +
          Text.bytes next.render := by
      rw [Tree.render, bytes_block]
      omega
    rw [hsize]
    simp only [Tree.render, List.append_assoc, List.cons_append]
    rw [headsFrom_head head.unmarked_text.flat, ih_inner _ (.inr ⟨_, rfl⟩)]
    -- behind the closing brace of the block the scan is where the next tree starts
    show _ :: (_ ++ headsFrom _ [] (next.render ++ more)) = _
    rw [ih_next _ hmore]
    simp only [Tree.heads, List.cons_append, List.append_assoc]

theorem heads_render (t : Tree) : heads t.render = t.heads 0 [] := by
  have h := headsFrom_render t 0 (.inl rfl)
  rw [List.append_nil] at h
  unfold heads
  rw [h]
  exact List.append_nil _

theorem head_of_passes {a : Text} (h : Passes a) (start : Nat) (prelude rest : Text) :
    (⟨start, prelude, a ++ '}' :: rest⟩ : Head).body = a ∧
      (⟨start, prelude, a ++ '}' :: rest⟩ : Head).stop =
        start + Text.bytes prelude + 1 + Text.bytes a + 1 := by
  have hclose := closeBlock_of_passes h rest
  have hbody : (⟨start, prelude, a ++ '}' :: rest⟩ : Head).body = a := by
    unfold Head.body
    simp only [hclose]
  refine ⟨hbody, ?_⟩
  unfold Head.stop Head.isClosed Head.bodyEnd
  simp only [hclose, hbody, Option.isSome_some, if_true]
  rfl

/-! ## Definitions -/

theorem create_of_mem {cs : Text} {offset : Nat} {name : Text}
    (h : (offset, name) ∈ selectorClasses cs) (css : Text) (at_ : Nat) (set : Declarations)
    (source : Text) :
    Definition.create name ⟨[]⟩ (lineAt css at_) set source =
      .ok ⟨name, ⟨[]⟩, lineAt css at_, set, source, 0⟩ := by
  have hvalid := (classAt_of_mem_selectorClasses h).1
  have hline : ¬ lineAt css at_ < 1 := by
    unfold lineAt
    omega
  unfold Definition.create
  simp [hvalid, hline]

theorem slice?_source {css pre post : Text} (selectors : Selectors) (body : List Statement)
    (hcss : css = pre ++ (selectors.text ++ '{' :: (bodyText body ++ '}' :: post))) :
    Text.slice?
        (Text.bytes pre + (Text.bytes selectors.text - Text.bytes (Text.trimStart selectors.text)))
        (Text.bytes pre + Text.bytes selectors.text + 1 + Text.bytes (bodyText body) + 1) css =
      some (Text.trimStart selectors.text ++ '{' :: (bodyText body ++ ['}'])) := by
  have hlead : selectors.text =
      selectors.text.takeWhile Text.isBlank ++ Text.trimStart selectors.text :=
    List.takeWhile_append_dropWhile.symm
  generalize selectors.text.takeWhile Text.isBlank = blanks at hlead
  generalize Text.trimStart selectors.text = trimmed at hlead ⊢
  rw [hlead] at hcss ⊢
  have hstart : Text.bytes pre + (Text.bytes (blanks ++ trimmed) - Text.bytes trimmed) =
      Text.bytes (pre ++ blanks) := by
    simp only [Text.bytes_append]
    omega
  have hstop :
      Text.bytes pre + Text.bytes (blanks ++ trimmed) + 1 + Text.bytes (bodyText body) + 1 =
      Text.bytes (pre ++ blanks) + Text.bytes (trimmed ++ '{' :: (bodyText body ++ ['}'])) := by
    rw [bytes_block]
    simp only [Text.bytes_append, Text.bytes_nil]
    omega
  have hparts : css =
      (pre ++ blanks) ++ ((trimmed ++ '{' :: (bodyText body ++ ['}'])) ++ post) := by
    rw [hcss]
    simp
  rw [hstart, hstop, hparts]
  exact Text.slice?_append _ _ _

theorem ruleDefinitions_rule {css pre post : Text} (selectors : Selectors) (body : List Statement)
    (hcss : css = pre ++ (selectors.text ++ '{' :: (bodyText body ++ '}' :: post)))
    (media : Option Text) :
    ruleDefinitions css css ⟨Text.bytes pre, selectors.text, bodyText body ++ '}' :: post⟩ =
      (ruleOccurrences (Text.bytes pre) media selectors body).map (·.definition css ⟨[]⟩) := by
  obtain ⟨hbody, hstop⟩ :=
    head_of_passes (passes_bodyText body) (Text.bytes pre) selectors.text post
  have hat : (⟨Text.bytes pre, selectors.text, bodyText body ++ '}' :: post⟩ : Head).isAtRule =
      false := by
    unfold Head.isAtRule
    simpa using selectors.no_at
  have hsource := slice?_source selectors body hcss
  unfold ruleDefinitions ruleOccurrences
  rw [hat, hbody, hstop, declarations_bodyText]
  simp only [Bool.false_eq_true, if_false, List.map_map]
  refine List.filterMap_eq_map_iff_forall_eq_some.mpr ?_
  rintro ⟨relative, name⟩ hmem
  simp only [create_of_mem hmem, Head.selectorStart]
  rw [hsource]
  rfl

theorem ruleDefinitions_atRule (css : Text) (start : Nat) (head : AtRule) (rest : Text) :
    ruleDefinitions css css ⟨start, head.text, rest⟩ = [] := by
  unfold ruleDefinitions
  rw [if_pos (head.isAtRule_eq start rest)]

/-- The rules of a tree that stands in a stylesheet define what the tree says. -/
theorem flatMap_ruleDefinitions (t : Tree) {css pre more : Text} {start : Nat}
    (hstart : start = Text.bytes pre) (hcss : css = pre ++ (t.render ++ more))
    (media : Option Text) :
    (t.heads start more).flatMap (ruleDefinitions css css) =
      (t.occurrences start media).map (·.definition css ⟨[]⟩) := by
  induction t generalizing start pre more media with
  | done space => rfl
  | rule selectors body next ih =>
    have hrule : css =
        pre ++ (selectors.text ++ '{' :: (bodyText body ++ '}' :: (next.render ++ more))) := by
      rw [hcss, Tree.render]
      simp
    have hnext : css =
        (pre ++ (selectors.text ++ '{' :: (bodyText body ++ ['}']))) ++ (next.render ++ more) := by
      rw [hrule]
      simp
    have hsize : start + Text.bytes selectors.text + 1 + Text.bytes (bodyText body) + 1 =
        Text.bytes (pre ++ (selectors.text ++ '{' :: (bodyText body ++ ['}']))) := by
      rw [Text.bytes_append, bytes_block, hstart, Text.bytes_nil]
      omega
    rw [Tree.heads, Tree.occurrences, List.flatMap_cons, List.map_append, ih hsize hnext media,
      hstart, ruleDefinitions_rule selectors body hrule media]
  | block head inner next ih_inner ih_next =>
    have hblock : css =
        pre ++ (head.text ++ '{' :: (inner.render ++ '}' :: (next.render ++ more))) := by
      rw [hcss, Tree.render]
      simp
    have hinner : css =
        (pre ++ (head.text ++ ['{'])) ++ (inner.render ++ '}' :: (next.render ++ more)) := by
      rw [hblock]
      simp
    -- the inner tree starts behind the opening brace, the next one behind the closing brace
    have hinner_size : start + Text.bytes head.text + 1 =
        Text.bytes (pre ++ (head.text ++ ['{'])) := by
      have hopen : Text.bytes ['{'] = 1 := rfl
      rw [Text.bytes_append, Text.bytes_append, hopen, hstart]
      omega
    have hnext : css =
        (pre ++ (head.text ++ '{' :: (inner.render ++ ['}']))) ++ (next.render ++ more) := by
      rw [hblock]
      simp
    have hnext_size : start + Text.bytes head.text + 1 + Text.bytes inner.render + 1 =
        Text.bytes (pre ++ (head.text ++ '{' :: (inner.render ++ ['}']))) := by
      rw [Text.bytes_append, bytes_block, hstart, Text.bytes_nil]
      omega
    rw [Tree.heads, Tree.occurrences, List.flatMap_cons, List.flatMap_append, List.map_append,
      ruleDefinitions_atRule, List.nil_append, ih_inner hinner_size hinner (head.query?.or media),
      ih_next hnext_size hnext media]

theorem definitions_render (t : Tree) :
    definitions t.render = (t.occurrences 0 none).map (·.definition t.render ⟨[]⟩) := by
  have hstripped : stripComments t.render = t.render :=
    stripFrom_of_uncommented t.uncommented_render true
  unfold definitions
  simp only [hstripped, heads_render]
  have hwhole : t.render = [] ++ (t.render ++ []) := by simp
  exact flatMap_ruleDefinitions t rfl hwhole none

/-! ## Media queries -/

/-- The media queries around a byte offset among some heads, from the outside in. -/
def enclosing (hs : List Head) (offset : Nat) : List Text :=
  hs.filterMap fun h =>
    h.mediaQuery?.bind fun query => if h.encloses offset then some query else none

theorem enclosing_rule (selectors : Selectors) (body : List Statement) (next : Tree) (start : Nat)
    (more : Text) (offset : Nat) :
    enclosing ((Tree.rule selectors body next).heads start more) offset =
      enclosing (next.heads
        (start + Text.bytes selectors.text + 1 + Text.bytes (bodyText body) + 1) more) offset := by
  have hnone := selectors.mediaQuery?_eq start (bodyText body ++ '}' :: (next.render ++ more))
  unfold enclosing
  rw [Tree.heads, List.filterMap_cons_none (by rw [hnone]; rfl)]

/-- A media block is around what lies strictly between its braces, with what is
around it inside and behind. -/
theorem enclosing_block (head : AtRule) (inner next : Tree) (start : Nat) (more : Text)
    (offset : Nat) :
    enclosing ((Tree.block head inner next).heads start more) offset =
      (if start + Text.bytes head.text < offset ∧
          offset < start + Text.bytes head.text + 1 + Text.bytes inner.render
        then head.query?.toList else []) ++
      (enclosing (inner.heads (start + Text.bytes head.text + 1)
          ('}' :: (next.render ++ more))) offset ++
        enclosing (next.heads
          (start + Text.bytes head.text + 1 + Text.bytes inner.render + 1) more) offset) := by
  have hquery := head.mediaQuery?_eq start (inner.render ++ '}' :: (next.render ++ more))
  have hbody := (head_of_passes inner.passes_render start head.text (next.render ++ more)).1
  have hencloses :
      (⟨start, head.text, inner.render ++ '}' :: (next.render ++ more)⟩ : Head).encloses offset =
        decide (start + Text.bytes head.text < offset ∧
          offset < start + Text.bytes head.text + 1 + Text.bytes inner.render) := by
    unfold Head.encloses Head.bodyEnd Head.brace
    rw [hbody, Bool.decide_and]
  unfold enclosing
  rw [Tree.heads, List.filterMap_cons, hquery, hencloses, List.filterMap_append]
  cases head.query? with
  | none => simp
  | some query => by_cases hin : start + Text.bytes head.text < offset ∧
      offset < start + Text.bytes head.text + 1 + Text.bytes inner.render <;> simp [hin]

theorem enclosing_outside (t : Tree) (start : Nat) (more : Text) {offset : Nat}
    (h : offset < start ∨ start + Text.bytes t.render ≤ offset) :
    enclosing (t.heads start more) offset = [] := by
  induction t generalizing start more with
  | done space => rfl
  | rule selectors body next ih =>
    rw [Tree.render, bytes_block] at h
    rw [enclosing_rule]
    exact ih _ _ (by omega)
  | block head inner next ih_inner ih_next =>
    rw [Tree.render, bytes_block] at h
    rw [enclosing_block, if_neg (by omega), ih_inner _ _ (by omega), ih_next _ _ (by omega)]
    rfl

theorem offset_mem_rule {selectors : Selectors} {body : List Statement} {start : Nat}
    {media : Option Text} {o : Occurrence} (h : o ∈ ruleOccurrences start media selectors body) :
    start ≤ o.offset ∧ o.offset < start + Text.bytes selectors.text ∧ o.media = media := by
  obtain ⟨⟨relative, name⟩, hmem, rfl⟩ := List.mem_map.mp h
  have hlt := (classAt_of_mem_selectorClasses hmem).lt_bytes
  exact ⟨by simp, by simpa using hlt, rfl⟩

theorem offset_mem (t : Tree) {start : Nat} {media : Option Text} {o : Occurrence}
    (h : o ∈ t.occurrences start media) :
    start ≤ o.offset ∧ o.offset < start + Text.bytes t.render := by
  induction t generalizing start media with
  | done space => cases h
  | rule selectors body next ih =>
    rw [Tree.render, bytes_block]
    rcases List.mem_append.mp h with hrule | hnext
    · have hbounds := offset_mem_rule hrule
      omega
    · have hbounds := ih hnext
      omega
  | block head inner next ih_inner ih_next =>
    rw [Tree.render, bytes_block]
    rcases List.mem_append.mp h with hinner | hnext
    · have hbounds := ih_inner hinner
      omega
    · have hbounds := ih_next hnext
      omega

/-- The last media query around a class is the innermost one of the tree. -/
theorem getLast?_enclosing (t : Tree) {start : Nat} (more : Text) {media : Option Text}
    {o : Occurrence} (h : o ∈ t.occurrences start media) :
    (enclosing (t.heads start more) o.offset).getLast?.or media = o.media := by
  induction t generalizing start more media with
  | done space => cases h
  | rule selectors body next ih =>
    rw [enclosing_rule]
    rcases List.mem_append.mp h with hrule | hnext
    · -- the class is in front of all that follows, so nothing there is around it
      obtain ⟨-, hbefore, hmedia⟩ := offset_mem_rule hrule
      rw [enclosing_outside next _ more (.inl (by omega)), hmedia]
      rfl
    · exact ih more hnext
  | block head inner next ih_inner ih_next =>
    rw [enclosing_block]
    rcases List.mem_append.mp h with hinner | hnext
    · -- the query of this block comes first, so those inside have the last word
      have hbounds := offset_mem inner hinner
      have hlast := ih_inner ('}' :: (next.render ++ more)) hinner
      rw [if_pos (by omega), enclosing_outside next _ more (.inl (by omega)), List.append_nil,
        List.getLast?_append, Option.or_assoc, ← hlast]
      cases head.query? <;> rfl
    · have hbounds := offset_mem next hnext
      rw [if_neg (by omega), enclosing_outside inner _ _ (.inr (by omega))]
      exact ih_next more hnext

theorem mediaQueryAt_render (t : Tree) {o : Occurrence} (h : o ∈ t.occurrences 0 none) :
    mediaQueryAt (stripComments t.render) o.offset = o.media := by
  have hstripped : stripComments t.render = t.render :=
    stripFrom_of_uncommented t.uncommented_render true
  have hlast := getLast?_enclosing t [] h
  rw [Option.or_none] at hlast
  rw [hstripped]
  unfold mediaQueryAt
  rw [heads_render]
  exact hlast

/-- **Parsing recovers the structure.** The sheet of a tree's text lists under
every class name the occurrences of this class in the tree, in source order,
and no others: each with the declarations of its rule, every property where it
first appears and with its last value, and with the text of the rule. The media
query found around each of them is that of the innermost media block of the
tree. -/
theorem Tree.recovered (t : Tree) (disk : Disk) (path : Path) :
    definitions t.render = (t.occurrences 0 none).map (·.definition t.render ⟨[]⟩) ∧
    (∀ name, (Sheet.ofContent disk t.render path).occurrencesOf name =
      ((t.occurrences 0 none).filter (·.name = name)).map (·.definition t.render path)) ∧
    (∀ o ∈ t.occurrences 0 none,
      (Sheet.ofContent disk t.render path).mediaQueryOf (o.definition t.render path) =
        o.media) := by
  refine ⟨definitions_render t, fun name => ?_, fun o ho => mediaQueryAt_render t ho⟩
  unfold Sheet.ofContent
  rw [Sheet.occurrencesOf_build, definitions_render, List.filter_map, List.map_map]
  rfl

end Stylesheet

end ClassLens
