import ClassLens.Text.WordRanges
import ClassLens.Text.Basic
/-
  Words — word characters and the boundaries between words

  A word boundary lies between two neighbouring places of a text of which
  exactly one holds a word character; the outside of the text holds none.
-/

namespace ClassLens

namespace Text

/-- Whether a character may stand in a word. -/
def isWord (c : Char) : Bool :=
  if c.toNat < 0x80 then c.isAlphanum || c = '_' else inRanges c.toNat wordRanges

/-- Whether there is a word character, at the given place or at all. -/
def isWord? : Option Char → Bool
  | some c => isWord c
  | none => false

/-- Whether a word boundary lies between what stands before and what stands after. -/
def isBoundary (before after : Option Char) : Bool := isWord? before != isWord? after

end Text

end ClassLens
