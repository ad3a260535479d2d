import ClassLens.Domain.MappingLines
import ClassLens.Text.Basic
/-
  The mapping — what the characters of a domain stand for

  Letters of a domain stand for their small forms, and characters that are mere
  variants of others stand for those. What stands for nothing else stays.
-/

namespace ClassLens

namespace Domain

/-- Characters `first`, `first + step`, up to `last`, and what they stand for. -/
structure MappingRow where
  first : Nat
  last : Nat
  step : Nat
  target : List Nat
  deriving Repr

/-- The value of a hexadecimal digit in capitals. -/
def hexDigit (c : Char) : Nat := if c.isDigit then c.toNat - 0x30 else c.toNat - 0x37

/-- The number that hexadecimal digits spell out. -/
def hexNumber (cs : Text) : Nat := cs.foldl (fun n c => n * 16 + hexDigit c) 0

def MappingRow.ofText (cs : Text) : MappingRow :=
  let (characters, target) := match Text.split (· = '=') cs with
    | [a, b] => (a, (Text.split (· = '+') b).map hexNumber)
    | _ => ([], [])
  let (span, step) := match Text.split (· = '/') characters with
    | [a, s] => (a, hexNumber s)
    | _ => (characters, 1)
  match Text.split (· = '-') span with
  | [a, b] => ⟨hexNumber a, hexNumber b, step, target⟩
  | _ => ⟨hexNumber span, hexNumber span, step, target⟩

/-- Whether a row is about a code point. -/
def MappingRow.covers (r : MappingRow) (n : Nat) : Bool :=
  r.first ≤ n && n ≤ r.last && (n - r.first) % r.step == 0

/-- What a row makes of a code point that it is about. -/
def MappingRow.apply (r : MappingRow) (n : Nat) : Text :=
  match r.target with
  | [t] => [Char.ofNat (t + (n - r.first))]
  | several => several.map Char.ofNat

def mappingRows : List MappingRow :=
  mappingLines.flatMap fun line => (Text.split (· = ' ') line.toList).map MappingRow.ofText

/-- What a character stands for, if that is something else. -/
def mapped? (c : Char) : Option Text :=
  if c.toNat < 0x80 then if c.isUpper then some [c.toLower] else none
  else (mappingRows.find? (·.covers c.toNat)).map (·.apply c.toNat)

end Domain

end ClassLens
