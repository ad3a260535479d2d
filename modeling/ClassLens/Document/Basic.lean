import ClassLens.Fault
import ClassLens.Path.Basic
import ClassLens.Stylesheet.ClassName
/-
  Documents — an open text, and the places in it

  Editors name a place by its line and the UTF-16 units before it on the line;
  everything else here counts bytes from the start of the text. A line ends
  before its line break, and carriage returns at its end do not belong to it.

  What this holds:
    1. `Position`, `Range` and `Document`;
    2. `line?`, `offsetAt?` and `positionAt`, between the two ways to name a place;
    3. `wordAt?`, the run of class name characters around a place.
-/

namespace ClassLens

/-- A place as editors name it: a line, and UTF-16 units before the place on it. -/
structure Position where
  line : Nat
  character : Nat
  deriving Repr, DecidableEq

/-- The stretch between two places. -/
structure Range where
  start : Position
  stop : Position
  deriving Repr, DecidableEq

/-- An open document. -/
structure Document where
  path : Path
  text : Text
  version : Int
  deriving Repr

namespace Document

/-- The text of every line with the line's byte offset, line ends included in neither. -/
def lineStartsFrom (start : Nat) : List Text → List (Nat × Text)
  | [] => []
  | l :: rest => (start, l) :: lineStartsFrom (start + Text.bytes l + 1) rest

/-- The lines of the text, each with its byte offset. -/
def rows (d : Document) : List (Nat × Text) :=
  lineStartsFrom 0 (Text.split (· = '\n') d.text)

def lineCount (d : Document) : Nat := d.rows.length

/-- A text without carriage returns at its end. -/
def dropReturns (cs : Text) : Text := (cs.reverse.dropWhile (· = '\r')).reverse

/-- A line's byte offset and its text. -/
def row? (d : Document) (line : Nat) : Option (Nat × Text) :=
  (d.rows[line]?).map fun (start, cs) => (start, dropReturns cs)

def line? (d : Document) (line : Nat) : Option Text := (d.row? line).map (·.2)

/-- The byte column of a UTF-16 column: the first character boundary at or
behind it, or the end of the line. -/
def byteColumn (character : Nat) : Text → Nat
  | [] => 0
  | c :: cs =>
    if character = 0 then 0
    else c.utf8Size + byteColumn (character - Text.charUnits c) cs

/-- The byte offset of a place, or `none` when its line does not exist. -/
def offsetAt? (d : Document) (p : Position) : Option Nat :=
  (d.row? p.line).map fun (start, cs) => start + byteColumn p.character cs

/-- The place of a byte offset; an offset past the end means the end. Lines and columns are
numbers below 2 to the 32, as long as the text has fewer bytes than that; such texts are meant. -/
def positionAt (d : Document) (offset : Nat) : Except Fault Position :=
  match Text.cut? (min offset (Text.bytes d.text)) d.text with
  | none => .error .insideCharacter
  | some (before, _) =>
    .ok ⟨Text.newlines before, Text.units (before.reverse.takeWhile (· ≠ '\n'))⟩

/-- The places of two byte offsets. -/
def rangeOf (d : Document) (start stop : Nat) : Except Fault Range := do
  let a ← d.positionAt start
  let b ← d.positionAt stop
  return ⟨a, b⟩

/-- The runs of class name characters on a line, with the offsets of their ends.
`run` is the length of the run that reaches up to `offset`. -/
def wordRuns (offset run : Nat) : Text → List (Nat × Nat)
  | [] => if run = 0 then [] else [(offset - run, offset)]
  | c :: cs =>
    if ClassName.isPart c then wordRuns (offset + 1) (run + 1) cs
    else
      let later := wordRuns (offset + c.utf8Size) 0 cs
      if run = 0 then later else (offset - run, offset) :: later

/-- The byte offsets around the run of class name characters that a place touches. -/
def wordAt? (d : Document) (p : Position) : Option (Nat × Nat) :=
  match d.row? p.line with
  | none => none
  | some (start, cs) =>
    let column := byteColumn p.character cs
    ((wordRuns 0 0 cs).find? fun (a, b) => a ≤ column && column ≤ b).map
      fun (a, b) => (start + a, start + b)

end Document

end ClassLens
