import ClassLens.Fault
import ClassLens.Text.Blank
import ClassLens.Text.Word
/-
  Attribute values — where a line holds class names

  A value follows the attribute's name, an equals sign with optional blanks
  around it, and a quote. The name starts at a word boundary. The value runs to
  the next quote of the same kind, or to the end of the line while it is still
  being typed; the search goes on behind the closing quote.

  What this holds:
    1. `AttributeValue`, and `attributeValues`, all values on a line;
    2. `classTokens`, the class names of a value;
    3. `Cursor` and `cursorAt`, what completion needs to know around a column.
-/

namespace ClassLens

/-- The value of an attribute on a line. -/
structure AttributeValue where
  /-- The byte column behind the opening quote. -/
  start : Nat
  text : Text
  /-- Whether a closing quote follows. -/
  closed : Bool
  deriving Repr, DecidableEq

namespace AttributeValue

/-- The byte column of the closing quote, or of the end of the line. -/
def stop (v : AttributeValue) : Nat := v.start + Text.bytes v.text

def touches (v : AttributeValue) (column : Nat) : Bool := v.start ≤ column && column ≤ v.stop

end AttributeValue

/-- The quote that opens a value and the text behind it, when a text begins with
the attribute's name, an equals sign and a quote. -/
def openingQuote? (name : Text) (cs : Text) : Option (Char × Text) :=
  if Text.startsWith name cs then
    match Text.trimStart (cs.drop name.length) with
    | '=' :: rest =>
      match Text.trimStart rest with
      | [] => none
      | q :: value => if q = '"' ∨ q = '\'' then some (q, value) else none
    | _ => none
  else none

/-- The values from a byte column on. `before` is the character before the
column, and `skip` characters are passed over first, as they belong to a value
already found. -/
def valuesFrom (name : Text) (before : Option Char) (column skip : Nat) :
    Text → List AttributeValue
  | [] => []
  | c :: cs =>
    let later := fun skip => valuesFrom name (some c) (column + c.utf8Size) skip cs
    match skip with
    | skip' + 1 => later skip'
    | 0 =>
      if Text.isBoundary before (some c) then
        match openingQuote? name (c :: cs) with
        | none => later 0
        | some (q, behind) =>
          let text := behind.takeWhile (· ≠ q)
          let start := column + (Text.bytes (c :: cs) - Text.bytes behind)
          let rest := behind.drop text.length
          if rest = [] then [⟨start, text, false⟩]
          else ⟨start, text, true⟩ :: later (cs.length - (rest.length - 1))
      else later 0

def attributeValues (name : Text) (line : Text) : List AttributeValue :=
  valuesFrom name none 0 0 line

/-- The value that a byte column touches. -/
def attributeValueAt? (name : Text) (line : Text) (column : Nat) : Option AttributeValue :=
  (attributeValues name line).find? (·.touches column)

/-- The pieces between separators of one byte each, with the offsets that follow
from their lengths; empty pieces are left out. -/
def tokensFrom (offset : Nat) : List Text → List (Nat × Text)
  | [] => []
  | t :: rest =>
    let later := tokensFrom (offset + Text.bytes t + 1) rest
    if t = [] then later else (offset, t) :: later

/-- The class names of a value. Their offsets take every blank for one byte. -/
def classTokens (value : Text) : List (Nat × Text) := tokensFrom 0 (Text.split Text.isBlank value)

/-- What completion needs to know around a column. -/
structure Cursor where
  /-- The byte columns around the token to replace. -/
  replaceStart : Nat
  replaceStop : Nat
  /-- The token up to the column. -/
  typed : Text
  /-- The other class names of the value. -/
  existing : List Text
  deriving Repr, DecidableEq

/-- The offset behind the last blank of a text, taken for one byte, or zero. -/
def behindLastBlank (cs : Text) : Nat :=
  match cs.reverse.dropWhile (!Text.isBlank ·) with
  | [] => 0
  | _ :: before => Text.bytes before + 1

/-- What completion needs to know at a byte column, or `none` outside all values. -/
def cursorAt (name : Text) (line : Text) (column : Nat) : Except Fault (Option Cursor) :=
  match attributeValueAt? name line column with
  | none => .ok none
  | some v =>
    match Text.cut? (column - v.start) v.text with
    | none => .error .insideCharacter
    | some (before, behind) =>
      let tokenStart := behindLastBlank before
      match Text.cut? tokenStart before with
      | none => .error .insideCharacter
      | some (_, typed) =>
        let tail := behind.takeWhile (!Text.isBlank ·)
        .ok (some {
          replaceStart := v.start + tokenStart
          replaceStop := column + Text.bytes tail
          typed
          existing := ((classTokens v.text).filter (·.1 ≠ tokenStart)).map (·.2) })

end ClassLens
