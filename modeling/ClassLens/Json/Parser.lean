import ClassLens.Json.Basic
/-
  Reading JSON

  The reader takes exactly the texts of the format: blanks are space, tab, line
  feed and carriage return; a number has no spare zero in front; a text holds
  no bare control character and its escapes name whole characters. Values nest
  to a fixed depth at most, and a number too large to be told apart from
  infinity is refused. Of two fields with one key the later one counts.
-/

namespace ClassLens

namespace Json

def isSpace (c : Char) : Bool := c = ' ' || c = '\t' || c = '\n' || c = '\r'

def skipSpace (cs : Text) : Text := cs.dropWhile isSpace

def hexDigit? (c : Char) : Option Nat :=
  if '0' ≤ c ∧ c ≤ '9' then some (c.toNat - '0'.toNat)
  else if 'a' ≤ c ∧ c ≤ 'f' then some (c.toNat - 'a'.toNat + 10)
  else if 'A' ≤ c ∧ c ≤ 'F' then some (c.toNat - 'A'.toNat + 10)
  else none

/-- The value of four hexadecimal digits, and the text behind them. -/
def hex4? : Text → Option (Nat × Text)
  | a :: b :: c :: d :: rest => do
    let a ← hexDigit? a
    let b ← hexDigit? b
    let c ← hexDigit? c
    let d ← hexDigit? d
    return (((a * 16 + b) * 16 + c) * 16 + d, rest)
  | _ => none

/-- The character that a backslash and what follows stand for, and the text
behind. Two surrogates in a row stand for one character; alone they stand for none. -/
def escape? : Text → Option (Char × Text)
  | '"' :: rest => some ('"', rest)
  | '\\' :: rest => some ('\\', rest)
  | '/' :: rest => some ('/', rest)
  | 'b' :: rest => some ('\x08', rest)
  | 'f' :: rest => some ('\x0c', rest)
  | 'n' :: rest => some ('\n', rest)
  | 'r' :: rest => some ('\r', rest)
  | 't' :: rest => some ('\t', rest)
  | 'u' :: rest => do
    let (high, rest) ← hex4? rest
    if 0xD800 ≤ high ∧ high < 0xDC00 then
      match rest with
      | '\\' :: 'u' :: rest =>
        let (low, rest) ← hex4? rest
        if 0xDC00 ≤ low ∧ low < 0xE000 then
          return (Char.ofNat (0x10000 + (high - 0xD800) * 0x400 + (low - 0xDC00)), rest)
        else none
      | _ => none
    else if 0xDC00 ≤ high ∧ high < 0xE000 then none
    else return (Char.ofNat high, rest)
  | _ => none

/-- The rest of a text value up to its closing quote, and the text behind it. -/
def stringRest? : Nat → Text → Option (Text × Text)
  | 0, _ => none
  | _ + 1, [] => none
  | fuel + 1, c :: cs =>
    if c = '"' then some ([], cs)
    else if c = '\\' then do
      let (d, rest) ← escape? cs
      let (s, rest) ← stringRest? fuel rest
      return (d :: s, rest)
    else if c.toNat < 0x20 then none
    else do
      let (s, rest) ← stringRest? fuel cs
      return (c :: s, rest)

/-- The value of decimal digits. -/
def decimal (digits : Text) : Nat := digits.foldl (fun n c => n * 10 + (c.toNat - '0'.toNat)) 0

/-- The least integer that a double cannot be told apart from infinity at. -/
def doubleLimit : Nat := Nat.pow 2 1024 - Nat.pow 2 970

/-- Whether a number, given by its digits and the power of ten they are scaled
by, is small enough for a double. -/
def isFinite (digits : Text) (exponent : Int) : Bool :=
  let n := decimal digits
  let width : Int := (Text.ofNat n).length
  if n = 0 then true
  else if width + exponent > 310 then false
  else if width + exponent < 300 then true
  else if exponent ≥ 0 then n * Nat.pow 10 exponent.toNat < doubleLimit
  else n < doubleLimit * Nat.pow 10 exponent.natAbs

/-- The sign, digits and exponent of a number as written. -/
structure Numeral where
  negative : Bool
  whole : Text
  fraction : Option Text
  exponent : Option Int
  deriving Repr

/-- Digits, at least one, and the text behind them. -/
def digits? (cs : Text) : Option (Text × Text) :=
  let ds := cs.takeWhile Char.isDigit
  if ds = [] then none else some (ds, cs.drop ds.length)

def exponent? (cs : Text) : Option (Option Int × Text) :=
  match cs with
  | c :: rest =>
    if c = 'e' ∨ c = 'E' then
      match rest with
      | '-' :: rest => (digits? rest).map fun (ds, rest) => (some (-(decimal ds : Int)), rest)
      | '+' :: rest => (digits? rest).map fun (ds, rest) => (some (decimal ds : Int), rest)
      | _ => (digits? rest).map fun (ds, rest) => (some (decimal ds : Int), rest)
    else some (none, cs)
  | [] => some (none, cs)

def fraction? (cs : Text) : Option (Option Text × Text) :=
  match cs with
  | '.' :: rest => (digits? rest).map fun (ds, rest) => (some ds, rest)
  | _ => some (none, cs)

/-- A number as written, and the text behind it. -/
def numeral? (cs : Text) : Option (Numeral × Text) := do
  let negative := cs.head? == some '-'
  let (whole, rest) ← digits? (if negative then cs.drop 1 else cs)
  if whole.length > 1 ∧ whole.head? = some '0' then none
  let (fraction, rest) ← fraction? rest
  let (exponent, rest) ← exponent? rest
  return (⟨negative, whole, fraction, exponent⟩, rest)

/-- The value of a number; `written` is its text. An integer that does not fit
into 64 bits is taken for a real number, and so is a negative zero. -/
def ofNumeral (n : Numeral) (written : Text) : Option Json :=
  let whole := decimal n.whole
  match n.fraction, n.exponent with
  | none, none =>
    if n.negative then
      if whole = 0 ∨ whole > 0x8000000000000000 then
        if isFinite n.whole 0 then some (.real (written ++ ['.', '0'])) else none
      else some (.int (-(whole : Int)))
    else if whole ≤ 0xFFFFFFFFFFFFFFFF then some (.int whole)
    else if isFinite n.whole 0 then some (.real (written ++ ['.', '0'])) else none
  | fraction, exponent =>
    let digits := fraction.getD []
    if isFinite (n.whole ++ digits) (exponent.getD 0 - digits.length) then some (.real written)
    else none

def number? (cs : Text) : Option (Json × Text) := do
  let (n, rest) ← numeral? cs
  let value ← ofNumeral n (cs.take (cs.length - rest.length))
  return (value, rest)

mutual

/-- A value and the text behind it. `depth` bounds the nesting and `fuel` the steps. -/
def valueAt? (depth : Nat) : Nat → Text → Option (Json × Text)
  | 0, _ => none
  | fuel + 1, cs =>
    match skipSpace cs with
    | '"' :: rest => (stringRest? (rest.length + 1) rest).map fun (s, rest) => (.str s, rest)
    | '[' :: rest =>
      if depth ≤ 1 then none
      else match skipSpace rest with
        | ']' :: rest => some (.arr [], rest)
        | rest => (itemsAt? (depth - 1) fuel rest).map fun (xs, rest) => (.arr xs, rest)
    | '{' :: rest =>
      if depth ≤ 1 then none
      else match skipSpace rest with
        | '}' :: rest => some (.obj [], rest)
        | rest => (fieldsAt? (depth - 1) fuel [] rest).map fun (fs, rest) => (.obj fs, rest)
    | 't' :: 'r' :: 'u' :: 'e' :: rest => some (.bool true, rest)
    | 'f' :: 'a' :: 'l' :: 's' :: 'e' :: rest => some (.bool false, rest)
    | 'n' :: 'u' :: 'l' :: 'l' :: rest => some (.null, rest)
    | cs => number? cs

/-- The items of an array, at least one, and the text behind its bracket. -/
def itemsAt? (depth : Nat) : Nat → Text → Option (List Json × Text)
  | 0, _ => none
  | fuel + 1, cs => do
    let (v, rest) ← valueAt? depth fuel cs
    match skipSpace rest with
    | ',' :: rest =>
      let (vs, rest) ← itemsAt? depth fuel rest
      return (v :: vs, rest)
    | ']' :: rest => return ([v], rest)
    | _ => none

/-- The fields of an object, at least one, and the text behind its brace. -/
def fieldsAt? (depth : Nat) : Nat → List (Text × Json) → Text → Option (List (Text × Json) × Text)
  | 0, _, _ => none
  | fuel + 1, before, cs =>
    match skipSpace cs with
    | '"' :: rest => do
      let (key, rest) ← stringRest? (rest.length + 1) rest
      match skipSpace rest with
      | ':' :: rest =>
        let (v, rest) ← valueAt? depth fuel rest
        let fields := setField before key v
        match skipSpace rest with
        | ',' :: rest => fieldsAt? depth fuel fields rest
        | '}' :: rest => return (fields, rest)
        | _ => none
      | _ => none
    | _ => none

end

/-- The greatest nesting, counting the value itself. -/
def maxDepth : Nat := 128

/-- The value that a whole text spells out. -/
def parse? (cs : Text) : Option Json :=
  match valueAt? maxDepth (2 * cs.length + 2) cs with
  | some (v, rest) => if (skipSpace rest).isEmpty then some v else none
  | none => none

end Json

end ClassLens
