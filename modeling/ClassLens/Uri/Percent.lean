import ClassLens.Text.Quoted
import ClassLens.Text.Utf8
/-
  Percent-encoding — bytes in places where they cannot stand as they are

  A byte that cannot stand in a part of a URI is written as a percent sign and
  two hexadecimal digits. Controls and bytes beyond ASCII never stand as they
  are; which others do not depends on the part.

  What this holds:
    1. `encodeBytes` and `encode`, writing;
    2. the characters that each part cannot hold;
    3. `decode`, the bytes that a written text stands for.
-/

namespace ClassLens

namespace Percent

/-- A byte as a percent sign and two digits. -/
def escaped (b : UInt8) : Text :=
  let digits := (Text.hex b.toNat).map Char.toUpper
  '%' :: List.replicate (2 - digits.length) '0' ++ digits

/-- Whether a byte is a control or lies beyond ASCII. -/
def isControl (b : UInt8) : Bool := b < 0x20 || 0x7E < b

/-- Writes bytes, of which controls, those beyond ASCII and the given characters are escaped. -/
def encodeBytes (special : List Char) (bytes : Bytes) : Text :=
  bytes.flatMap fun b =>
    let c := Char.ofNat b.toNat
    if isControl b || special.contains c then escaped b else [c]

/-- Writes a text, of which controls, what lies beyond ASCII and the given characters are
escaped. -/
def encode (special : List Char) (cs : Text) : Text := encodeBytes special (Utf8.encode cs)

/-- Characters that cannot stand in a fragment. -/
def inFragment : List Char := [' ', '"', '<', '>', '`']

/-- Characters that cannot stand in a path. -/
def inPath : List Char := inFragment ++ ['#', '?', '\x7b', '\x7d']

/-- Characters that cannot stand in one segment of the path of a file. -/
def inSegment : List Char := inPath ++ ['/', '%', '\\']

/-- Characters that cannot stand in the name of a user or in a password. -/
def inUser : List Char := inPath ++ ['/', ':', ';', '=', '@', '[', '\\', ']', '^', '|']

/-- Characters that cannot stand in a query. -/
def inQuery : List Char := [' ', '"', '#', '<', '>']

def digit? (c : Char) : Option Nat :=
  if c.isDigit then some (c.toNat - '0'.toNat)
  else if 'a' ≤ c ∧ c ≤ 'f' then some (c.toNat - 'a'.toNat + 10)
  else if 'A' ≤ c ∧ c ≤ 'F' then some (c.toNat - 'A'.toNat + 10)
  else none

/-- The bytes that a written text stands for. A percent sign without two digits stands for
itself. -/
def decode : Text → Bytes
  | '%' :: a :: b :: rest =>
    match digit? a, digit? b with
    | some x, some y => UInt8.ofNat (x * 16 + y) :: decode rest
    | _, _ => Utf8.encode ['%'] ++ decode (a :: b :: rest)
  | c :: rest => Utf8.encode [c] ++ decode rest
  | [] => []

end Percent

end ClassLens
