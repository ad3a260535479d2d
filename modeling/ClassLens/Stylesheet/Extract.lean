import ClassLens.Stylesheet.Comment
import ClassLens.Stylesheet.Block
import ClassLens.Stylesheet.Selector
import ClassLens.Stylesheet.Declarations
/-
  Extraction — the classes of a stylesheet

  Comments are blanked first; then every block whose head is no at-rule defines
  the classes of its selector list. Of each class name the first definition is
  kept beside the list of all of them in source order.
-/

namespace ClassLens

namespace Stylesheet

/-- The classes of one stylesheet. -/
structure Classes where
  /-- The first definition of each class name. -/
  first : Table Text Definition
  /-- All definitions of each class name, in source order. -/
  all : Table Text (List Definition)
  deriving Repr

namespace Classes

def empty : Classes := ⟨Table.empty, Table.empty⟩

/-- The classes with one more definition behind those before. -/
def add (cs : Classes) (d : Definition) : Classes where
  first := cs.first.insertNew d.name d
  all := cs.all.insert d.name ((cs.all.get? d.name).getD [] ++ [d])

end Classes

/-- The line, counted from one, that a byte offset lies on. -/
def lineAt (css : Text) (offset : Nat) : Nat := 1 + Text.newlinesBefore offset 0 css

def Head.isAtRule (h : Head) : Bool := (Text.trimStart h.prelude).head? == some '@'

/-- The byte offset of the first character of a head that is no blank. -/
def Head.selectorStart (h : Head) : Nat :=
  h.start + (Text.bytes h.prelude - Text.bytes (Text.trimStart h.prelude))

/-- The definitions that one block of the stylesheet `css` makes; `stripped` is
`css` with its comments blanked. -/
def ruleDefinitions (css stripped : Text) (h : Head) : List Definition :=
  if h.isAtRule then []
  else
    let set := declarations h.body
    let source := (Text.slice? h.selectorStart h.stop css).getD
      ((Text.slice? h.selectorStart h.stop stripped).getD [])
    (selectorClasses h.prelude).filterMap fun (relative, name) =>
      let offset := h.start + relative
      match Definition.create name ⟨[]⟩ (lineAt stripped offset) set source with
      | .ok d => some (d.atOffset offset)
      | .error _ => none

/-- All definitions of a stylesheet in source order. -/
def definitions (css : Text) : List Definition :=
  let stripped := stripComments css
  (heads stripped).flatMap (ruleDefinitions css stripped)

def extract (css : Text) : Classes := (definitions css).foldl Classes.add Classes.empty

end Stylesheet

end ClassLens
