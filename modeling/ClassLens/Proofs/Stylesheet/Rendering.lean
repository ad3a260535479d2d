import ClassLens.Proofs.Stylesheet.Scanning
import ClassLens.Proofs.Stylesheet.Tree
import ClassLens.Proofs.Text.Split
import ClassLens.Proofs.Table
/-
  Rendering — what the scanners meet in the text of a tree

  The text of a tree holds no comment, and its blocks are balanced. The text
  between the braces of a rule falls apart into its statements, and from these
  the declarations are read back.

  What is proved:
    1. `Tree.uncommented_render` — blanking comments changes nothing;
    2. `Tree.passes_render`, `passes_bodyText` — blocks end where they should;
    3. `declarations_bodyText` — a rule declares what its statements say;
    4. `AtRule.mediaQuery?_eq`, `Selectors.mediaQuery?_eq` — which heads are
       media blocks.
-/

namespace ClassLens

namespace Stylesheet

/-! ## The characters of a tree -/

theorem Space.not_mem (s : Space) {c : Char} (h : Text.isBlank c = false) : c ∉ s.text := by
  intro hmem
  rw [List.all_eq_true.mp s.blank c hmem] at h
  cases h

theorem Space.ne_of_mem (s : Space) {c d : Char} (hc : c ∈ s.text) (h : Text.isBlank d = false) :
    c ≠ d := fun heq => s.not_mem h (heq ▸ hc)

theorem Space.unmarked (s : Space) : Unmarked s.text := by
  intro c hc
  exact ⟨s.ne_of_mem hc rfl, s.ne_of_mem hc rfl, s.ne_of_mem hc rfl, s.ne_of_mem hc rfl,
    s.ne_of_mem hc rfl⟩

theorem Space.uncommented (s : Space) : Uncommented s.text := by
  have h := uncommented_append (b := []) (fun c hc => s.ne_of_mem hc (d := '/') rfl) trivial
  rwa [List.append_nil] at h

theorem Plain.uncommented (p : Plain) : Uncommented p.text :=
  uncommented_of_not_contains p.no_block_comment p.no_line_comment

theorem Unmarked.append {a b : Text} (ha : Unmarked a) (hb : Unmarked b) : Unmarked (a ++ b) := by
  intro c hc
  rcases List.mem_append.mp hc with hc | hc
  · exact ha c hc
  · exact hb c hc

theorem Unmarked.passes {a : Text} (h : Unmarked a) : Passes a :=
  passes_of_flat fun c hc =>
    have hne := h c hc
    ⟨hne.1, hne.2.1, hne.2.2.2⟩

theorem Unmarked.flat {a : Text} (h : Unmarked a) : ∀ c ∈ a, c ≠ '{' ∧ c ≠ '}' ∧ c ≠ ';' :=
  fun c hc =>
    have hne := h c hc
    ⟨hne.1, hne.2.1, hne.2.2.1⟩

theorem Statement.unmarked_text (s : Statement) : Unmarked s.text := by
  cases s with
  | nothing space => exact space.unmarked
  | declare setting =>
    have hcolon : Unmarked [':'] := by
      intro c hc
      rw [List.mem_singleton.mp hc]
      decide
    exact setting.name.unmarked.append (hcolon.append setting.value.unmarked)

theorem Statement.uncommented_text (s : Statement) : Uncommented s.text := by
  cases s with
  | nothing space => exact space.uncommented
  | declare setting =>
    exact uncommented_append_cons setting.name.uncommented (by decide) setting.value.uncommented

theorem AtRule.unmarked_text (h : AtRule) : Unmarked h.text := by
  cases h with
  | media space query boundary =>
    have hmark : Unmarked mediaMark := by
      intro c hc
      have hmem : c ∈ ['@', 'm', 'e', 'd', 'i', 'a'] := hc
      simp only [List.mem_cons, List.not_mem_nil, or_false] at hmem
      rcases hmem with rfl | rfl | rfl | rfl | rfl | rfl <;> decide
    exact space.unmarked.append (hmark.append query.unmarked)
  | other prelude at_sign no_media => exact prelude.unmarked

theorem AtRule.uncommented_text (h : AtRule) : Uncommented h.text := by
  cases h with
  | media space query boundary =>
    refine uncommented_append (fun c hc => space.ne_of_mem hc rfl) ?_
    refine uncommented_append (fun c hc heq => ?_) query.uncommented
    rw [heq] at hc
    exact absurd hc (by decide)
  | other prelude at_sign no_media => exact prelude.uncommented

/-! ## Bodies -/

theorem bodyText_cons (s t : Statement) (rest : List Statement) :
    bodyText (s :: t :: rest) = s.text ++ ';' :: bodyText (t :: rest) := by
  show s.text ++ [';'] ++ bodyText (t :: rest) = _
  rw [List.append_assoc, List.singleton_append]

theorem uncommented_bodyText (body : List Statement) : Uncommented (bodyText body) := by
  induction body with
  | nil => trivial
  | cons s rest ih =>
    cases rest with
    | nil => exact s.uncommented_text
    | cons t rest =>
      rw [bodyText_cons]
      exact uncommented_append_cons s.uncommented_text (by decide) ih

theorem bodyText_flat (body : List Statement) :
    ∀ c ∈ bodyText body, c ≠ '{' ∧ c ≠ '}' ∧ c ≠ '"' ∧ c ≠ '\'' := by
  induction body with
  | nil =>
    intro c hc
    cases hc
  | cons s rest ih =>
    have hs : ∀ c ∈ s.text, c ≠ '{' ∧ c ≠ '}' ∧ c ≠ '"' ∧ c ≠ '\'' := fun c hc =>
      have hne := s.unmarked_text c hc
      ⟨hne.1, hne.2.1, hne.2.2.2⟩
    cases rest with
    | nil => exact hs
    | cons t rest =>
      intro c hc
      rw [bodyText_cons] at hc
      rcases List.mem_append.mp hc with hc | hc
      · exact hs c hc
      · rcases List.mem_cons.mp hc with rfl | hc
        · decide
        · exact ih c hc

theorem passes_bodyText (body : List Statement) : Passes (bodyText body) :=
  passes_of_flat (bodyText_flat body)

/-! ## Trees -/

theorem Tree.uncommented_render (t : Tree) : Uncommented t.render := by
  induction t with
  | done space => exact space.uncommented
  | rule selectors body next ih =>
    refine uncommented_append_cons selectors.uncommented (by decide) ?_
    exact uncommented_append_cons (uncommented_bodyText body) (by decide) ih
  | block head inner next ih_inner ih_next =>
    refine uncommented_append_cons head.uncommented_text (by decide) ?_
    exact uncommented_append_cons ih_inner (by decide) ih_next

theorem Tree.passes_render (t : Tree) : Passes t.render := by
  -- a rule and an at-rule block have the same shape
  have hblock : ∀ {a b c : Text}, Passes a → Passes b → Passes c →
      Passes (a ++ '{' :: (b ++ '}' :: c)) := by
    intro a b c ha hb hc
    have h := ha.append (hb.block.append hc)
    simpa using h
  induction t with
  | done space => exact space.unmarked.passes
  | rule selectors body next ih =>
    exact hblock selectors.unmarked.passes (passes_bodyText body) ih
  | block head inner next ih_inner ih_next =>
    exact hblock head.unmarked_text.passes ih_inner ih_next

/-! ## Declarations -/

theorem splitColon_append {a : Text} (h : ':' ∉ a) (b : Text) :
    splitColon (a ++ ':' :: b) = some (a, b) := by
  induction a with
  | nil => simp [splitColon]
  | cons c a ih =>
    simp only [List.mem_cons, not_or] at h
    simp [splitColon, Ne.symm h.1, ih h.2]

theorem splitColon_of_not_mem {a : Text} (h : ':' ∉ a) : splitColon a = none := by
  induction a with
  | nil => rfl
  | cons c a ih =>
    simp only [List.mem_cons, not_or] at h
    simp [splitColon, Ne.symm h.1, ih h.2]

theorem mem_of_mem_trim {c : Char} {cs : Text} (h : c ∈ Text.trim cs) : c ∈ cs := by
  have hend : c ∈ Text.trimStart cs := by
    unfold Text.trim Text.trimEnd at h
    exact List.mem_reverse.mp ((List.dropWhile_sublist _).subset (List.mem_reverse.mp h))
  exact (List.dropWhile_sublist _).subset hend

theorem mem_trim {c : Char} {cs : Text} (h : c ∈ cs) (hc : Text.isBlank c = false) :
    c ∈ Text.trim cs := by
  have hdrop : ∀ ds : Text, c ∈ ds → c ∈ ds.dropWhile Text.isBlank := by
    intro ds hds
    rw [← List.takeWhile_append_dropWhile (p := Text.isBlank) (l := ds), List.mem_append] at hds
    rcases hds with hblank | hrest
    · have htrue := List.all_eq_true.mp List.all_takeWhile c hblank
      rw [hc] at htrue
      cases htrue
    · exact hrest
  unfold Text.trim Text.trimEnd
  rw [List.mem_reverse]
  apply hdrop
  rw [List.mem_reverse]
  exact hdrop cs h

theorem hasBrace_trim {cs : Text} (h : Unmarked cs) : hasBrace (Text.trim cs) = false := by
  unfold hasBrace
  rw [List.any_eq_false]
  intro c hc
  have hne := h c (mem_of_mem_trim hc)
  simp [hne.1, hne.2.1]

/-- What a statement declares is read back from its text. -/
theorem declaration?_text (s : Statement) :
    declaration? s.text = match s with
      | .nothing _ => none
      | .declare setting => some (Text.trim setting.name.text, Text.trim setting.value.text) := by
  cases s with
  | nothing space =>
    have hcolon : splitColon space.text = none := splitColon_of_not_mem (space.not_mem rfl)
    simp only [declaration?, Statement.text, hcolon]
  | declare setting =>
    have hcolon : splitColon setting.text = some (setting.name.text, setting.value.text) :=
      splitColon_append setting.no_colon setting.value.text
    simp only [declaration?, Statement.text, hcolon, setting.name_ne, setting.value_ne,
      hasBrace_trim setting.name.unmarked, hasBrace_trim setting.value.unmarked, false_or,
      Bool.false_eq_true, if_false]

theorem filterMap_declaration? (body : List Statement) :
    (Text.split (· = ';') (bodyText body)).filterMap declaration? = settings body := by
  by_cases hnil : body = []
  · rw [hnil]
    rfl
  · have hsemi : ∀ t ∈ body.map Statement.text, ';' ∉ t := by
      intro t ht hmem
      obtain ⟨s, -, rfl⟩ := List.mem_map.mp ht
      exact (s.unmarked_text ';' hmem).2.2.1 rfl
    have hne : body.map Statement.text ≠ [] := by simpa using hnil
    have hread : declaration? ∘ Statement.text = fun s => match s with
        | .nothing _ => none
        | .declare setting => some (Text.trim setting.name.text, Text.trim setting.value.text) :=
      funext declaration?_text
    unfold bodyText
    rw [Text.split_join hne hsemi, List.filterMap_map, hread]
    rfl

/-- Writing pairs in order leaves each name where it first appeared, with its last value. -/
theorem foldl_insert_eq (pairs : List (Text × Text)) :
    pairs.foldl (fun t e => t.insert e.1 e.2) (Table.empty : Declarations) =
      ⟨lastValues pairs⟩ := by
  generalize hfold : pairs.foldl (fun t e => t.insert e.1 e.2) (Table.empty : Declarations) = t
  have hdistinct : t.Distinct := by
    rw [← hfold]
    exact Table.distinct_foldl_insert pairs Table.distinct_empty
  have hkeys : t.keys = (pairs.map (·.1)).eraseDups := by
    have hnone : ∀ k : Text, (!(Table.empty : Declarations).keys.contains k) = true := fun _ => rfl
    rw [← hfold, Table.keys_foldl_insert, List.filter_eq_self.mpr fun k _ => hnone k]
    rfl
  have hget : ∀ name, t.get? name = pairs.reverse.lookup name := by
    intro name
    rw [← hfold, Table.get?_foldl_insert, Table.get?_empty, Option.or_none]
  have hentries : t.entries = lastValues pairs := by
    rw [Table.entries_eq_map_keys hdistinct [], hkeys]
    simp only [hget]
    rfl
  rw [← hentries]

theorem declarations_bodyText (body : List Statement) :
    declarations (bodyText body) = ⟨lastValues (settings body)⟩ := by
  unfold declarations
  rw [filterMap_declaration?]
  exact foldl_insert_eq (settings body)

/-! ## Media blocks -/

theorem mediaPrelude?_of_not_contains {cs : Text} (h : Text.contains mediaMark cs = false) :
    mediaPrelude? cs = none := by
  induction cs with
  | nil => rfl
  | cons c cs ih =>
    simp only [Text.contains, Bool.or_eq_false_iff] at h
    simp [mediaPrelude?, h.1, ih h.2]

theorem mediaPrelude?_mark (space : Space) {query : Text}
    (h : Text.isWord? query.head? = false) :
    mediaPrelude? (space.text ++ (mediaMark ++ query)) = some query := by
  -- white space holds no mark, so the first mark is that of the block
  have hno : ∀ c ∈ space.text, c ≠ '@' := fun c hc => space.ne_of_mem hc rfl
  generalize space.text = lead at hno
  induction lead with
  | nil =>
    have hdrop :
        ('@' :: ('m' :: 'e' :: 'd' :: 'i' :: 'a' :: query)).drop mediaMark.length = query := rfl
    show mediaPrelude? ('@' :: ('m' :: 'e' :: 'd' :: 'i' :: 'a' :: query)) = some query
    unfold mediaPrelude?
    simp only [hdrop]
    rw [if_pos ⟨rfl, h⟩]
  | cons c lead ih =>
    have hc := hno c List.mem_cons_self
    have hnot : Text.startsWith mediaMark (c :: (lead ++ (mediaMark ++ query))) = false := by
      show (('@' == c) && _) = false
      simp [Ne.symm hc]
    rw [List.cons_append, mediaPrelude?]
    simp only [hnot]
    simpa using ih fun d hd => hno d (List.mem_cons_of_mem c hd)

/-- The head of an at-rule is that of a media block exactly when the at-rule is one. -/
theorem AtRule.mediaQuery?_eq (head : AtRule) (start : Nat) (rest : Text) :
    (⟨start, head.text, rest⟩ : Head).mediaQuery? = head.query? := by
  cases head with
  | media space query boundary =>
    show (mediaPrelude? (space.text ++ (mediaMark ++ query.text))).map _ = _
    rw [mediaPrelude?_mark space boundary]
    rfl
  | other prelude at_sign no_media =>
    show (mediaPrelude? prelude.text).map _ = _
    rw [mediaPrelude?_of_not_contains no_media]
    rfl

theorem Selectors.mediaQuery?_eq (selectors : Selectors) (start : Nat) (rest : Text) :
    (⟨start, selectors.text, rest⟩ : Head).mediaQuery? = none := by
  show (mediaPrelude? selectors.text).map _ = _
  rw [mediaPrelude?_of_not_contains selectors.no_media]
  rfl

theorem AtRule.isAtRule_eq (head : AtRule) (start : Nat) (rest : Text) :
    (⟨start, head.text, rest⟩ : Head).isAtRule = true := by
  cases head with
  | media space query boundary =>
    have htrim : Text.trimStart (space.text ++ (mediaMark ++ query.text)) =
        mediaMark ++ query.text := by
      unfold Text.trimStart
      rw [List.dropWhile_append_of_pos (List.all_eq_true.mp space.blank)]
      rfl
    show ((Text.trimStart (space.text ++ (mediaMark ++ query.text))).head? == some '@') = true
    rw [htrim]
    rfl
  | other prelude at_sign no_media =>
    show ((Text.trimStart prelude.text).head? == some '@') = true
    rw [at_sign]
    rfl

end Stylesheet

end ClassLens
