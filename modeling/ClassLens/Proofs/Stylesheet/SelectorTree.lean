import ClassLens.Stylesheet.Selector
/-
  Selector trees — a selector list as its author has it in mind

  A list is a sequence of complex selectors, each of them compounds joined by
  white space or by a sign. White space is kept, so one tree stands for one
  spelling, and every spelling of a list is the text of some tree. A compound
  may be empty; only where white space joins the last one it is not, because
  white space before nothing joins nothing.

  What this holds:
    1. `Gap`, `Ident`, `Nested`: white space, names, and what brackets hold;
    2. `Simple`, `Compound`, `Joint`, `Complex`, `Listed` and their texts;
    3. `listText`, the text of a list;
    4. `definedBy`, the classes that a list defines: read off the tree, with no
       scanning.
-/

namespace ClassLens

namespace Stylesheet

/-- Whether a character may separate the parts of a selector list. -/
def isWhite (c : Char) : Bool := c = ' ' || c = '\t' || c = '\r' || c = '\n'

/-- White space around the parts of a selector list. -/
structure Gap where
  text : Text
  white : text.all isWhite = true := by decide

/-- A name in a selector. -/
structure Ident where
  text : Text
  valid : ClassName.isValid text = true := by decide

/-- The two shapes of brackets. -/
inductive Bracket where
  | round
  | square

def Bracket.opening : Bracket → Char
  | .round => '('
  | .square => '['

def Bracket.closing : Bracket → Char
  | .round => ')'
  | .square => ']'

/-- Whether a character is a bracket. -/
def isBracket (c : Char) : Bool := c = '(' || c = '[' || c = ')' || c = ']'

/-- What brackets hold: any text whose brackets are nested. A bracket of either
shape closes one of either shape. -/
inductive Nested where
  | done
  | plain (text : Text) (flat : text.any isBracket = false) (next : Nested)
  | group (opened closed : Bracket) (inner next : Nested)

/-- One part of a compound. -/
inductive Simple where
  | id (name : Ident)
  | className (name : Ident)
  | attr (inside : Nested)
  /-- A pseudo-class, or with two colons a pseudo-element; either may have arguments. -/
  | pseudo (isElement : Bool) (name : Ident) (arguments : Option Nested)

/-- The type at the start of a compound. -/
inductive Element where
  | any
  | named (name : Ident)

structure Compound where
  element : Option Element
  parts : List Simple

/-- The signs that join compounds. -/
inductive Sign where
  | child
  | next
  | later

/-- What joins two compounds. -/
inductive Joint where
  | descendant (gap : Gap) (ne : gap.text ≠ [])
  | sign (before : Gap) (mark : Sign) (after : Gap)

/-! ## The text of a list -/

def Nested.text : Nested → Text
  | .done => []
  | .plain text _ next => text ++ next.text
  | .group opened closed inner next =>
    opened.opening :: (inner.text ++ closed.closing :: next.text)

/-- The arguments of a pseudo-class in their brackets. -/
def argumentsText : Option Nested → Text
  | none => []
  | some inside => '(' :: (inside.text ++ [')'])

def Simple.text : Simple → Text
  | .id name => '#' :: name.text
  | .className name => '.' :: name.text
  | .attr inside => '[' :: (inside.text ++ [']'])
  | .pseudo isElement name arguments =>
    (if isElement then [':', ':'] else [':']) ++ (name.text ++ argumentsText arguments)

def elementText : Option Element → Text
  | none => []
  | some .any => ['*']
  | some (.named name) => name.text

def Compound.text (c : Compound) : Text := elementText c.element ++ c.parts.flatMap Simple.text

def Sign.char : Sign → Char
  | .child => '>'
  | .next => '+'
  | .later => '~'

def Joint.text : Joint → Text
  | .descendant gap _ => gap.text
  | .sign before mark after => before.text ++ mark.char :: after.text

def Joint.isDescendant : Joint → Bool
  | .descendant _ _ => true
  | .sign _ _ _ => false

/-- A complex selector: its subject behind the compounds that lead to it. -/
structure Complex where
  lead : List (Compound × Joint)
  subject : Compound
  joined : ∀ last ∈ lead.getLast?, last.2.isDescendant = true → subject.text ≠ []

/-- The text of the compounds before the subject. -/
def leadText (lead : List (Compound × Joint)) : Text :=
  lead.flatMap fun (compound, joint) => compound.text ++ joint.text

def Complex.text (s : Complex) : Text := leadText s.lead ++ s.subject.text

/-- A selector between the commas of a list. -/
structure Listed where
  before : Gap
  selector : Complex
  after : Gap

def Listed.text (item : Listed) : Text :=
  item.before.text ++ (item.selector.text ++ item.after.text)

/-- The text of a selector list. -/
def listText (items : List Listed) : Text := Text.join [','] (items.map Listed.text)

/-! ## What a list defines -/

/-- Whether a part is a pseudo-class or pseudo-element. -/
def Simple.isPseudo : Simple → Bool
  | .pseudo _ _ _ => true
  | _ => false

/-- The classes among the parts of a compound, with the offsets of their dots. -/
def partClasses (start : Nat) : List Simple → List (Nat × Text)
  | [] => []
  | .className name :: parts =>
    (start, name.text) :: partClasses (start + Text.bytes (Simple.className name).text) parts
  | part :: parts => partClasses (start + Text.bytes part.text) parts

/-- The class a compound defines as a subject: its first one, unless it has a
pseudo-class or pseudo-element. -/
def Compound.class? (c : Compound) : Option (Nat × Text) :=
  if c.parts.any Simple.isPseudo then none
  else (partClasses (Text.bytes (elementText c.element)) c.parts).head?

/-- The classes of the subjects, with the offsets of their dots. -/
def subjectClasses (start : Nat) : List Listed → List (Nat × Text)
  | [] => []
  | item :: items =>
    let before := Text.bytes item.before.text + Text.bytes (leadText item.selector.lead)
    let found := item.selector.subject.class?.map fun (offset, name) =>
      (start + (before + offset), name)
    found.toList ++ subjectClasses (start + Text.bytes item.text + 1) items

/-- The classes without those whose name came before. -/
def dropRepeats : List (Nat × Text) → List (Nat × Text)
  | [] => []
  | c :: cs => c :: (dropRepeats cs).filter (·.2 ≠ c.2)

/-- The classes that a selector list defines. -/
def definedBy (items : List Listed) : List (Nat × Text) := dropRepeats (subjectClasses 0 items)

end Stylesheet

end ClassLens
