import ClassLens.Proofs.Stylesheet.SourceOrder
import ClassLens.Proofs.Stylesheet.Structure
/-
  Nested bodies — what a rule declares that has blocks inside its block

  The text between the braces of a rule is cut at its semicolons, whichever
  block they stand in, and a piece with a brace in it declares nothing. So a
  declaration counts exactly when it stands alone between two cuts. One of the
  rule itself does not when it follows a nested block, and one of a nested
  block does when it has a semicolon on either side.

  What this holds:
    1. `Body`, declarations and nested blocks in any order, with its text;
    2. `Body.own`, what is declared directly in the block, and `Body.mentions`,
       all declarations at any depth with whether they stand alone;
    3. `reads_nested`, `reads_text` — the pieces of a body that declare
       something are the mentions that stand alone;
    4. `declares_what_stands_alone` — so are the declarations of the rule;
    5. `nested_declarations_intrude` — a rule that loses a declaration to a
       block inside it, and gains two.
-/

namespace ClassLens

namespace Stylesheet

/-- What stands between two braces: statements and nested blocks. -/
inductive Body where
  /-- What stands right before the closing brace. -/
  | last (s : Statement)
  /-- A statement that a semicolon ends. -/
  | declare (s : Statement) (next : Body)
  | block (prelude : Plain) (inner next : Body)

def Body.text : Body → Text
  | .last s => s.text
  | .declare s next => s.text ++ ';' :: next.text
  | .block prelude inner next => prelude.text ++ '{' :: (inner.text ++ '}' :: next.text)

/-- What is declared directly in the block. -/
def Body.own : Body → List (Text × Text)
  | .last s => settings [s]
  | .declare s next => settings [s] ++ next.own
  | .block _ _ next => next.own

/-- A declaration somewhere in the body of a rule. -/
structure Mention where
  /-- Its name and its value. -/
  setting : Text × Text
  /-- Whether it stands directly in the block of the rule. -/
  own : Bool
  /-- Whether there is nothing but a semicolon or a brace of the rule on either side. -/
  alone : Bool
  deriving DecidableEq

def Statement.mentions (own alone : Bool) (s : Statement) : List Mention :=
  (settings [s]).map fun setting => ⟨setting, own, alone⟩

/-- All declarations of a body that is the rule's `own` or a nested one. A
semicolon or the rule's opening brace stands before it if it is `fresh`. -/
def Body.mentions (own fresh : Bool) : Body → List Mention
  | .last s => s.mentions own (fresh && own)
  | .declare s next => s.mentions own fresh ++ next.mentions own true
  | .block _ inner next => inner.mentions false false ++ next.mentions own false

/-- What is declared by the mentions that stand alone. -/
def aloneSettings (mentions : List Mention) : List (Text × Text) :=
  (mentions.filter (·.alone)).map (·.setting)

/-! ## Mentions -/

theorem aloneSettings_append (a b : List Mention) :
    aloneSettings (a ++ b) = aloneSettings a ++ aloneSettings b := by
  simp [aloneSettings]

theorem Statement.aloneSettings_mentions (s : Statement) (own alone : Bool) :
    aloneSettings (s.mentions own alone) = if alone then settings [s] else [] := by
  cases alone <;> simp [aloneSettings, Statement.mentions, List.filter_map, Function.comp_def]

theorem Statement.own_mentions (s : Statement) (own alone : Bool) :
    ((s.mentions own alone).filter (·.own)).map (·.setting) = if own then settings [s] else [] := by
  cases own <;> simp [Statement.mentions, List.filter_map, Function.comp_def]

theorem Body.own_mentions (b : Body) (own fresh : Bool) :
    ((b.mentions own fresh).filter (·.own)).map (·.setting) = if own then b.own else [] := by
  induction b generalizing own fresh with
  | last s => exact s.own_mentions own _
  | declare s next ih =>
    rw [Body.mentions, List.filter_append, List.map_append, s.own_mentions, ih]
    cases own <;> rfl
  | block prelude inner next ih_inner ih_next =>
    rw [Body.mentions, List.filter_append, List.map_append, ih_inner, ih_next]
    cases own <;> rfl

/-! ## Reading a body -/

/-- What is declared from a place on: by all pieces, or by those behind the first
semicolon if the place is inside a piece. -/
def reads (fresh : Bool) (cs : Text) : List (Text × Text) :=
  let pieces := Text.split (· = ';') cs
  (if fresh then pieces else pieces.tail).filterMap declaration?

theorem settings_eq (s : Statement) : settings [s] = (declaration? s.text).toList := by
  rw [declaration?_text]
  cases s <;> rfl

theorem mem_of_splitColon {cs name value : Text} (h : splitColon cs = some (name, value))
    {c : Char} (hc : c ∈ cs) : c ∈ name ∨ c = ':' ∨ c ∈ value := by
  induction cs generalizing name with
  | nil => cases hc
  | cons d cs ih =>
    unfold splitColon at h
    split at h
    · rename_i hcolon
      cases h
      rcases List.mem_cons.mp hc with rfl | hc
      · exact .inr (.inl hcolon)
      · exact .inr (.inr hc)
    · obtain ⟨⟨name', value'⟩, hrest, heq⟩ := Option.map_eq_some_iff.mp h
      cases heq
      rcases List.mem_cons.mp hc with rfl | hc
      · exact .inl List.mem_cons_self
      · rcases ih hrest hc with hname | hvalue
        · exact .inl (List.mem_cons_of_mem d hname)
        · exact .inr hvalue

theorem declaration?_of_brace {piece : Text} {c : Char} (hbrace : c = '{' ∨ c = '}')
    (hc : c ∈ piece) : declaration? piece = none := by
  have hblank : Text.isBlank c = false := by
    rcases hbrace with rfl | rfl <;> rfl
  have hhas : ∀ part : Text, c ∈ part → hasBrace (Text.trim part) = true := by
    intro part hpart
    refine List.any_eq_true.mpr ⟨c, mem_trim hpart hblank, ?_⟩
    simpa using hbrace
  unfold declaration?
  cases hsplit : splitColon piece with
  | none => rfl
  | some parts =>
    obtain ⟨name, value⟩ := parts
    rcases mem_of_splitColon hsplit hc with hname | hcolon | hvalue
    · simp [hhas name hname]
    · rcases hbrace with rfl | rfl <;> cases hcolon
    · simp [hhas value hvalue]

/-- Up to the next semicolon behind a brace nothing is declared. -/
theorem reads_brace {a : Text} {c : Char} (ha : ';' ∉ a) (hbrace : c = '{' ∨ c = '}')
    (fresh : Bool) (more : Text) : reads fresh (a ++ c :: more) = reads false more := by
  obtain ⟨piece, rest, hmore⟩ := List.exists_cons_of_ne_nil (Text.split_ne_nil (· = ';') more)
  have hflat : ∀ d ∈ a ++ [c], decide (d = ';') = false := by
    intro d hd
    apply decide_eq_false
    rintro rfl
    rcases List.mem_append.mp hd with hd | hd
    · exact ha hd
    · rcases hbrace with rfl | rfl <;> cases List.mem_singleton.mp hd
  have hsplit : Text.split (· = ';') (a ++ c :: more) = (a ++ [c] ++ piece) :: rest := by
    rw [List.append_cons]
    exact Text.split_append_of_forall_not hflat hmore
  have hnone : declaration? (a ++ [c] ++ piece) = none :=
    declaration?_of_brace hbrace (by simp)
  unfold reads
  rw [hsplit, hmore]
  cases fresh with
  | false => rfl
  | true => exact List.filterMap_cons_none hnone

/-- A statement that a semicolon ends is declared if nothing else is in its piece. -/
theorem reads_semicolon (s : Statement) (fresh : Bool) (more : Text) :
    reads fresh (s.text ++ ';' :: more) =
      (if fresh then settings [s] else []) ++ reads true more := by
  have hflat : ∀ d ∈ s.text, decide (d = ';') = false := fun d hd =>
    decide_eq_false (s.unmarked_text d hd).2.2.1
  have hsplit : Text.split (· = ';') (s.text ++ ';' :: more) =
      s.text :: Text.split (· = ';') more := Text.split_append_cons hflat (by decide) more
  unfold reads
  rw [hsplit, settings_eq]
  cases fresh with
  | false => rfl
  | true => cases hread : declaration? s.text <;> simp [hread]

theorem reads_last (s : Statement) (fresh : Bool) :
    reads fresh s.text = if fresh then settings [s] else [] := by
  have hflat : ∀ d ∈ s.text, decide (d = ';') = false := fun d hd =>
    decide_eq_false (s.unmarked_text d hd).2.2.1
  unfold reads
  rw [Text.split_of_forall_not hflat, settings_eq]
  cases fresh with
  | false => rfl
  | true => cases hread : declaration? s.text <;> simp [hread]

theorem reads_nested (b : Body) (fresh : Bool) (more : Text) :
    reads fresh (b.text ++ '}' :: more) =
      aloneSettings (b.mentions false fresh) ++ reads false more := by
  have hsemi : ∀ {a : Text}, Unmarked a → ';' ∉ a := fun h hmem => (h ';' hmem).2.2.1 rfl
  induction b generalizing fresh more with
  | last s =>
    -- the closing brace gets into the piece of the statement
    rw [Body.text, reads_brace (hsemi s.unmarked_text) (.inr rfl), Body.mentions,
      s.aloneSettings_mentions, Bool.and_false]
    rfl
  | declare s next ih =>
    rw [Body.text, List.append_assoc, List.cons_append, reads_semicolon, ih, Body.mentions,
      aloneSettings_append, s.aloneSettings_mentions, List.append_assoc]
  | block prelude inner next ih_inner ih_next =>
    rw [Body.text, List.append_assoc, List.cons_append, List.append_assoc, List.cons_append,
      reads_brace (hsemi prelude.unmarked) (.inl rfl), ih_inner, ih_next, Body.mentions,
      aloneSettings_append, List.append_assoc]

/-- What is declared in the body of a rule. -/
theorem reads_text (b : Body) (fresh : Bool) :
    reads fresh b.text = aloneSettings (b.mentions true fresh) := by
  induction b generalizing fresh with
  | last s =>
    rw [Body.text, reads_last, Body.mentions, s.aloneSettings_mentions, Bool.and_true]
  | declare s next ih =>
    rw [Body.text, reads_semicolon, ih, Body.mentions, aloneSettings_append,
      s.aloneSettings_mentions]
  | block prelude inner next ih_inner ih_next =>
    have hsemi : ';' ∉ prelude.text := fun hmem => (prelude.unmarked ';' hmem).2.2.1 rfl
    rw [Body.text, reads_brace hsemi (.inl rfl), reads_nested, ih_next, Body.mentions,
      aloneSettings_append]

theorem declarations_text (b : Body) :
    declarations b.text = ⟨lastValues (aloneSettings (b.mentions true true))⟩ := by
  rw [← reads_text]
  exact foldl_insert_eq (reads true b.text)

theorem Body.passes_text (b : Body) : Passes b.text := by
  induction b with
  | last s => exact s.unmarked_text.passes
  | declare s next ih =>
    have hsemi : Passes [';'] := passes_of_flat (by simp)
    have h := s.unmarked_text.passes.append (hsemi.append ih)
    exact h
  | block prelude inner next ih_inner ih_next =>
    have h := prelude.unmarked.passes.append (ih_inner.block.append ih_next)
    simpa [Body.text] using h

end Stylesheet

/-! ## The rule of a body -/

open Stylesheet in
/-- **A rule declares what stands alone in its block, at any depth.** Let the text
without comments hold a rule whose block has declarations and nested blocks in
it. All its definitions have as declarations the mentions that stand alone,
each name where it first appears and with its last value. They have the rule's
own declarations, and no others, if exactly these stand alone. -/
theorem declares_what_stands_alone {css before selectors behind : Text} {body : Body}
    (hcss : stripComments css = before ++ (selectors ++ '{' :: (body.text ++ '}' :: behind)))
    (hbefore : ∀ c ∈ before.getLast?, c = '{' ∨ c = '}' ∨ c = ';')
    (hselectors : ∀ c ∈ selectors, c ≠ '{' ∧ c ≠ '}' ∧ c ≠ ';')
    {d : Definition} (hd : d ∈ definitions css)
    (hoffset : Text.bytes before ≤ d.offset ∧ d.offset < Text.bytes (before ++ selectors)) :
    d.declarations = ⟨lastValues (aloneSettings (body.mentions true true))⟩ ∧
      ((∀ m ∈ body.mentions true true, m.alone = m.own) →
        d.declarations = ⟨lastValues body.own⟩) := by
  obtain ⟨h, hmem, hrule⟩ := List.mem_flatMap.mp hd
  have hfound : ⟨Text.bytes before, selectors, body.text ++ '}' :: behind⟩ ∈
      heads (stripComments css) := by
    rw [hcss]
    exact mem_heads hbefore hselectors _
  have hin : (⟨Text.bytes before, selectors, body.text ++ '}' :: behind⟩ : Head).start ≤ d.offset ∧
      d.offset < (⟨Text.bytes before, selectors, body.text ++ '}' :: behind⟩ : Head).brace := by
    rwa [Text.bytes_append] at hoffset
  obtain rfl := head_eq_of_overlap hmem hfound (offset_mem_head hrule) hin
  have hdeclarations : d.declarations = ⟨lastValues (aloneSettings (body.mentions true true))⟩ := by
    obtain ⟨relative, -, heq⟩ := eq_of_mem_ruleDefinitions hrule
    rw [heq]
    show declarations (Head.body _) = _
    rw [(head_of_passes body.passes_text _ _ _).1, declarations_text]
  refine ⟨hdeclarations, fun halone => ?_⟩
  have hown : aloneSettings (body.mentions true true) = body.own := by
    unfold aloneSettings
    rw [List.filter_congr halone]
    exact body.own_mentions true true
  rw [hdeclarations, hown]

namespace Stylesheet.Sample

def red : Statement := .declare { name.text := " color".toList, value.text := " red".toList }
def blue : Statement := .declare { name.text := " color".toList, value.text := " blue".toList }
def top : Statement := .declare { name.text := " top".toList, value.text := " 0".toList }
def left : Statement := .declare { name.text := " left".toList, value.text := " 1".toList }
def right : Statement := .declare { name.text := " right".toList, value.text := " 2 ".toList }
def margin : Statement := .declare { name.text := " margin".toList, value.text := " 4 ".toList }

/-- The block inside holds one declaration, and a semicolon follows it. -/
def tidy : Body :=
  .declare red (.block { text := " b ".toList } (.last blue)
    (.declare (.nothing { text := [] }) (.last margin)))

/-- The block inside holds several declarations, and one of the rule follows it. -/
def untidy : Body :=
  .declare red (.block { text := " b ".toList }
    (.declare top (.declare blue (.declare left (.last right)))) (.last margin))

def tidySheet : Text := ".a \x7b color: red; b \x7b color: blue\x7d; margin: 4 \x7d".toList

def untidySheet : Text :=
  ".a \x7b color: red; b \x7b top: 0; color: blue; left: 1; right: 2 \x7d margin: 4 \x7d".toList

/-- The definition of a class `a` at the start of a stylesheet. -/
def definition (set : List (Text × Text)) (source : Text) : Definition :=
  ⟨['a'], ⟨[]⟩, 1, ⟨set⟩, source, 0⟩

end Stylesheet.Sample

open Stylesheet in
theorem declares_what_stands_alone_tidy :
    definitions Sample.tidySheet = [Sample.definition
      [("color".toList, "red".toList), ("margin".toList, "4".toList)] Sample.tidySheet] ∧
    Sample.tidySheet = ".a ".toList ++ '{' :: (Sample.tidy.text ++ ['}']) ∧
    ∀ d ∈ definitions Sample.tidySheet, d.declarations = ⟨lastValues Sample.tidy.own⟩ := by
  have hdefinitions : definitions Sample.tidySheet = [Sample.definition
      [("color".toList, "red".toList), ("margin".toList, "4".toList)] Sample.tidySheet] := rfl
  have hcss : stripComments Sample.tidySheet =
      [] ++ (".a ".toList ++ '{' :: (Sample.tidy.text ++ '}' :: [])) := rfl
  refine ⟨hdefinitions, rfl, fun d hd => ?_⟩
  have hoffset : Text.bytes [] ≤ d.offset ∧ d.offset < Text.bytes ([] ++ ".a ".toList) := by
    rw [hdefinitions, List.mem_singleton] at hd
    rw [hd]
    decide
  have hselectors : Unmarked ".a ".toList := by decide
  exact (declares_what_stands_alone hcss (by simp) hselectors.flat hd hoffset).2 (by decide)

open Stylesheet in
/-- A rule without a declaration of its own, but with two of the block inside it. -/
theorem nested_declarations_intrude :
    Sample.untidySheet = ".a ".toList ++ '{' :: (Sample.untidy.text ++ ['}']) ∧
    lastValues Sample.untidy.own =
      [("color".toList, "red".toList), ("margin".toList, "4".toList)] ∧
    definitions Sample.untidySheet = [Sample.definition
      [("color".toList, "blue".toList), ("left".toList, "1".toList)] Sample.untidySheet] :=
  ⟨rfl, rfl, rfl⟩

end ClassLens
