import ClassLens.Text.Basic
/-
  UTF-8 — texts as bytes, and bytes read back as text

  Every text has one form in bytes. Not every list of bytes is such a form, so
  reading comes in two ways: one gives up at the first stretch that is no
  character, the other puts a mark in its place. A stretch that is no character
  is as long as it could still have become one.

  What this holds:
    1. `Bytes` and `encode`, the bytes of a text;
    2. `stretches`, the characters of a list of bytes and the gaps between them;
    3. `decode?` and `lossy`, the two ways to read.
-/

namespace ClassLens

/-- A list of bytes. -/
abbrev Bytes := List UInt8

namespace Utf8

def encode (cs : Text) : Bytes := cs.flatMap String.utf8EncodeChar

/-- The number of bytes of the character that a byte begins, or zero where none begins with it. -/
def width (a : UInt8) : Nat :=
  if a < 0x80 then 1
  else if a < 0xC2 then 0
  else if a < 0xE0 then 2
  else if a < 0xF0 then 3
  else if a < 0xF5 then 4
  else 0

/-- Whether a byte goes on with a character. -/
def isTail (b : UInt8) : Bool := 0x80 ≤ b && b ≤ 0xBF

/-- Whether a byte goes on with the character that `a` begins. Forms that are
too long, surrogates and numbers past the last code point are cut off here. -/
def isSecond (a b : UInt8) : Bool :=
  let low := if a = 0xE0 then 0xA0 else if a = 0xF0 then 0x90 else 0x80
  let high := if a = 0xED then 0x9F else if a = 0xF4 then 0x8F else 0xBF
  low ≤ b && b ≤ high

/-- The character of a first byte, of which the bits above `mark` count, and the bytes behind it. -/
def character (mark a : UInt8) (tail : Bytes) : Char :=
  Char.ofNat (tail.foldl (fun n b => n * 0x40 + (b - 0x80).toNat) (a - mark).toNat)

/-- The characters of a list of bytes in order, with `none` for each stretch that is none. -/
def stretches : Bytes → List (Option Char)
  | [] => []
  | a :: rest =>
    if width a = 1 then some (Char.ofNat a.toNat) :: stretches rest
    else if width a = 0 then none :: stretches rest
    else
      match rest with
      | [] => [none]
      | b :: rest₂ =>
        if !isSecond a b then none :: stretches (b :: rest₂)
        else if width a = 2 then some (character 0xC0 a [b]) :: stretches rest₂
        else
          match rest₂ with
          | [] => [none]
          | c :: rest₃ =>
            if !isTail c then none :: stretches (c :: rest₃)
            else if width a = 3 then some (character 0xE0 a [b, c]) :: stretches rest₃
            else
              match rest₃ with
              | [] => [none]
              | d :: rest₄ =>
                if !isTail d then none :: stretches (d :: rest₄)
                else some (character 0xF0 a [b, c, d]) :: stretches rest₄

def decode? (bytes : Bytes) : Option Text := (stretches bytes).mapM id

/-- The mark for what is no character. -/
def replacement : Char := Char.ofNat 0xFFFD

/-- The text that bytes spell out, with a mark for each stretch that is no character. -/
def lossy (bytes : Bytes) : Text := (stretches bytes).map (·.getD replacement)

/-- Whether `a` comes no later than `b` in the order of bytes. -/
def le : Bytes → Bytes → Bool
  | [], _ => true
  | _ :: _, [] => false
  | a :: as, b :: bs => if a = b then le as bs else a < b

end Utf8

end ClassLens
