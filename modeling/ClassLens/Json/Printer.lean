import ClassLens.Json.Basic
import ClassLens.Text.Quoted
/-
  Writing JSON

  Two layouts: `compact` puts everything on one line without blanks, `pretty`
  gives every item and field a line of its own, indented by two spaces for each
  level. Both write characters beyond ASCII as they are; `ascii` is the compact
  layout with those written as escapes.
-/

namespace ClassLens

namespace Json

/-- Four lower-case hexadecimal digits. -/
def hex4 (n : Nat) : Text :=
  let digits := Text.hex n
  List.replicate (4 - digits.length) '0' ++ digits

/-- A character inside a text value. -/
def escapeChar (c : Char) : Text :=
  if c = '"' then ['\\', '"']
  else if c = '\\' then ['\\', '\\']
  else if c = '\n' then ['\\', 'n']
  else if c = '\r' then ['\\', 'r']
  else if c = '\t' then ['\\', 't']
  else if c = '\x08' then ['\\', 'b']
  else if c = '\x0c' then ['\\', 'f']
  else if c.toNat < 0x20 then '\\' :: 'u' :: hex4 c.toNat
  else [c]

/-- A character inside a text value, with everything beyond ASCII escaped. -/
def escapeAscii (c : Char) : Text :=
  let n := c.toNat
  if n < 0x7F then escapeChar c
  else if n < 0x10000 then '\\' :: 'u' :: hex4 n
  else
    let m := n - 0x10000
    '\\' :: 'u' :: hex4 (0xD800 + m / 0x400) ++ '\\' :: 'u' :: hex4 (0xDC00 + m % 0x400)

def writeText (escape : Char → Text) (s : Text) : Text := '"' :: s.flatMap escape ++ ['"']

def writeInt (n : Int) : Text :=
  if n < 0 then '-' :: Text.ofNat n.natAbs else Text.ofNat n.natAbs

mutual

def write (escape : Char → Text) : Json → Text
  | .null => ['n', 'u', 'l', 'l']
  | .bool true => ['t', 'r', 'u', 'e']
  | .bool false => ['f', 'a', 'l', 's', 'e']
  | .int n => writeInt n
  | .real written => written
  | .str s => writeText escape s
  | .arr items => '[' :: Text.join [','] (writeItems escape items) ++ [']']
  | .obj fields => '{' :: Text.join [','] (writeFields escape fields) ++ ['}']

/-- The items of an array, each on one line. -/
def writeItems (escape : Char → Text) : List Json → List Text
  | [] => []
  | v :: rest => write escape v :: writeItems escape rest

/-- The fields of an object, each on one line. -/
def writeFields (escape : Char → Text) : List (Text × Json) → List Text
  | [] => []
  | (k, v) :: rest =>
    (writeText escape k ++ ':' :: write escape v) :: writeFields escape rest

end

def compact (v : Json) : Text := write escapeChar v

/-- A value on one line, in ASCII. -/
def ascii (v : Json) : Text := write escapeAscii v

/-- Lines at a level between the two brackets of an array or object. -/
def layOut (level : Nat) (opening closing : Char) (lines : List Text) : Text :=
  match lines with
  | [] => [opening, closing]
  | _ =>
    let inner := '\n' :: List.replicate (2 * (level + 1)) ' '
    opening :: inner ++ Text.join (',' :: inner) lines ++
      '\n' :: List.replicate (2 * level) ' ' ++ [closing]

mutual

/-- A value laid out over lines, its first line at the given level. -/
def prettyAt (level : Nat) : Json → Text
  | .arr items => layOut level '[' ']' (prettyItems (level + 1) items)
  | .obj fields => layOut level '{' '}' (prettyFields (level + 1) fields)
  | v => compact v

/-- The items of an array laid out at a level. -/
def prettyItems (level : Nat) : List Json → List Text
  | [] => []
  | v :: rest => prettyAt level v :: prettyItems level rest

/-- The fields of an object laid out at a level. -/
def prettyFields (level : Nat) : List (Text × Json) → List Text
  | [] => []
  | (k, v) :: rest =>
    (writeText escapeChar k ++ ':' :: ' ' :: prettyAt level v) :: prettyFields level rest

end

/-- A value laid out over lines. -/
def pretty (v : Json) : Text := prettyAt 0 v

end Json

end ClassLens
