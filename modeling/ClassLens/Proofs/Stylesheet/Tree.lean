import ClassLens.Stylesheet.Sheet
/-
  Trees — a stylesheet as its author has it in mind

  A tree is a sequence of style rules and at-rule blocks, the latter with a
  tree of their own inside. All texts of a tree keep their white space, so one
  tree stands for one spelling, and every spelling of the same rules is the
  text of some tree.

  What this holds:
    1. `Plain` and what is made of it: `Setting`, `Statement`, `Selectors`,
       `AtRule`;
    2. `Tree` and `Tree.render`, the text of a tree;
    3. `Tree.occurrences`, what the rules of a tree define: read off the tree,
       with no scanning.
-/

namespace ClassLens

namespace Stylesheet

/-- White space. -/
structure Space where
  text : Text
  blank : text.all Text.isBlank = true := by decide

/-- The text has no brace, no semicolon and no quote. -/
def Unmarked (cs : Text) : Prop :=
  ∀ c ∈ cs, c ≠ '{' ∧ c ≠ '}' ∧ c ≠ ';' ∧ c ≠ '"' ∧ c ≠ '\''

instance (cs : Text) : Decidable (Unmarked cs) := List.decidableBAll _ cs

/-- A stretch that no brace, semicolon, quote or comment interrupts. -/
structure Plain where
  text : Text
  unmarked : Unmarked text := by decide
  no_block_comment : Text.contains ['/', '*'] text = false := by decide
  no_line_comment : Text.contains ['/', '/'] text = false := by decide

/-- A declaration: something on either side of a first colon. -/
structure Setting where
  name : Plain
  value : Plain
  no_colon : ':' ∉ name.text := by decide
  name_ne : Text.trim name.text ≠ [] := by decide
  value_ne : Text.trim value.text ≠ [] := by decide

/-- What stands between two semicolons: nothing but white space, or a declaration. -/
inductive Statement where
  | nothing (space : Space)
  | declare (setting : Setting)

/-- The selector list of a style rule. -/
structure Selectors extends Plain where
  no_at : (Text.trimStart text).head? ≠ some '@' := by decide
  no_media : Text.contains mediaMark text = false := by decide

/-- The head of a block that is no style rule. -/
inductive AtRule where
  /-- The media mark, and the query up to the brace. -/
  | media (space : Space) (query : Plain) (boundary : Text.isWord? query.text.head? = false)
  /-- Any other at-rule up to the brace. -/
  | other (prelude : Plain) (at_sign : (Text.trimStart prelude.text).head? = some '@')
      (no_media : Text.contains mediaMark prelude.text = false)

/-- Rules and blocks, one after the other. -/
inductive Tree where
  | done (space : Space)
  | rule (selectors : Selectors) (body : List Statement) (next : Tree)
  | block (head : AtRule) (inner : Tree) (next : Tree)

/-! ## The text of a tree -/

def Setting.text (s : Setting) : Text := s.name.text ++ ':' :: s.value.text

def Statement.text : Statement → Text
  | .nothing space => space.text
  | .declare setting => setting.text

/-- The text between the braces of a rule. -/
def bodyText (body : List Statement) : Text := Text.join [';'] (body.map Statement.text)

def AtRule.text : AtRule → Text
  | .media space query _ => space.text ++ (mediaMark ++ query.text)
  | .other prelude _ _ => prelude.text

/-- The text of a tree. -/
def Tree.render : Tree → Text
  | .done space => space.text
  | .rule selectors body next => selectors.text ++ '{' :: (bodyText body ++ '}' :: next.render)
  | .block head inner next => head.text ++ '{' :: (inner.render ++ '}' :: next.render)

/-! ## What a tree defines -/

/-- The names and values that a rule declares, in the order they are written. -/
def settings (body : List Statement) : List (Text × Text) :=
  body.filterMap fun
    | .nothing _ => none
    | .declare s => some (Text.trim s.name.text, Text.trim s.value.text)

/-- Each name once, in order of first appearance, with the last value written for it. -/
def lastValues (pairs : List (Text × Text)) : List (Text × Text) :=
  (pairs.map (·.1)).eraseDups.map fun name => (name, (pairs.reverse.lookup name).getD [])

/-- The query of a media block, as it is shown. -/
def AtRule.query? : AtRule → Option Text
  | .media _ query _ => some (mediaMark ++ ' ' :: Text.trim query.text)
  | .other _ _ _ => none

/-- One class that a rule of a tree defines. -/
structure Occurrence where
  name : Text
  offset : Nat
  declarations : List (Text × Text)
  source : Text
  /-- The innermost media query around the rule. -/
  media : Option Text

/-- What one rule defines that starts at a byte offset inside a media query. -/
def ruleOccurrences (start : Nat) (media : Option Text) (selectors : Selectors)
    (body : List Statement) : List Occurrence :=
  (selectorClasses selectors.text).map fun (relative, name) =>
    { name, media
      offset := start + relative
      declarations := lastValues (settings body)
      source := Text.trimStart selectors.text ++ '{' :: (bodyText body ++ ['}']) }

/-- What the rules of a tree define that starts at a byte offset inside a media query. -/
def Tree.occurrences (start : Nat) (media : Option Text) : Tree → List Occurrence
  | .done _ => []
  | .rule selectors body next =>
    ruleOccurrences start media selectors body ++
      next.occurrences
        (start + Text.bytes selectors.text + 1 + Text.bytes (bodyText body) + 1) media
  | .block head inner next =>
    inner.occurrences (start + Text.bytes head.text + 1) (head.query?.or media) ++
      next.occurrences (start + Text.bytes head.text + 1 + Text.bytes inner.render + 1) media

/-- The first of two declarations gives the place, the second one the value. -/
example :
    let name : Plain := { text := " x".toList }
    let first : Plain := { text := "1".toList }
    let second : Plain := { text := " 2".toList }
    let t : Tree :=
      .block (.media { text := [] } { text := " print ".toList } (by decide))
        (.rule { text := ".a".toList } [.declare { name, value := first },
          .declare { name, value := second }] (.done { text := [] }))
        (.done { text := ['\n'] })
    t.render = "@media print \x7b.a\x7b x:1; x: 2\x7d\x7d\n".toList ∧
      (t.occurrences 0 none).map (fun o => (o.name, o.offset, o.declarations, o.media)) =
        [("a".toList, 14, [("x".toList, "2".toList)], some "@media print".toList)] :=
  ⟨rfl, rfl⟩

/-- The definition that an occurrence amounts to in the stylesheet `css` at `path`. -/
def Occurrence.definition (css : Text) (path : Path) (o : Occurrence) : Definition :=
  ⟨o.name, path, lineAt css o.offset, ⟨o.declarations⟩, o.source, o.offset⟩

end Stylesheet

end ClassLens
