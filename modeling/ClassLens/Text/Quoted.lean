import ClassLens.Text.Basic
import ClassLens.Text.Hidden
/-
  Quoted text — how a text is shown inside a message

  A quoted text stands between double quotes. A backslash and a double quote
  get a backslash before them, tab, line feed, carriage return and the null
  character their usual letters, and every other character that would leave no
  mark of its own the number of its code point.
-/

namespace ClassLens

namespace Text

/-- The lower-case hexadecimal digits of a number. -/
def hex (n : Nat) : Text := Nat.toDigits 16 n

def quoteChar (c : Char) : Text :=
  if c = '"' then ['\\', '"']
  else if c = '\\' then ['\\', '\\']
  else if c = '\n' then ['\\', 'n']
  else if c = '\r' then ['\\', 'r']
  else if c = '\t' then ['\\', 't']
  else if c.toNat = 0 then ['\\', '0']
  else if isHidden c then ['\\', 'u', '\x7b'] ++ hex c.toNat ++ ['\x7d']
  else [c]

/-- The text between double quotes, with what cannot be shown written out. -/
def quoted (cs : Text) : Text := '"' :: cs.flatMap quoteChar ++ ['"']

end Text

end ClassLens
