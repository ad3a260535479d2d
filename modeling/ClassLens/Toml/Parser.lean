import ClassLens.Toml.Basic
import ClassLens.Json.Parser
/-
  Reading TOML

  The reader takes a whole file: lines with a key and a value, headers of
  tables and of elements of arrays of tables, comments and blank lines. It
  answers with the fields of the whole file, or with nothing when any line is
  malformed or says what an earlier line already said. Values nest only so
  deep, and a key has only so many parts.

  What this holds:
    1. readers of texts, keys, numbers and dates;
    2. `value?`, with arrays and tables between braces;
    3. `line?` and `parse?`, a file line by line.
-/

namespace ClassLens

namespace Toml

open Json (digits? decimal isFinite hexDigit?)

/-- A reader of part of a file: what was read, and the text behind it. -/
abbrev Reader (α : Type) := Text → Option (α × Text)

/-! ## Blanks, comments and line ends -/

/-- Blanks within a line. -/
def isGap (c : Char) : Bool := c = ' ' || c = '\t'

/-- The text behind blanks within a line. -/
def skipGap (cs : Text) : Text := cs.dropWhile isGap

def lineEnd? : Text → Option Text
  | '\n' :: rest => some rest
  | '\r' :: '\n' :: rest => some rest
  | _ => none

/-- Whether a character may stand in a comment. -/
def isCommentChar (c : Char) : Bool := c = '\t' || (0x20 ≤ c.toNat && c.toNat ≠ 0x7F)

def skipComment (cs : Text) : Text :=
  match cs with
  | '#' :: rest => rest.dropWhile isCommentChar
  | _ => cs

/-- The text behind blanks, line ends and comments. -/
def skipLines : Nat → Text → Text
  | 0, cs => cs
  | fuel + 1, cs =>
    let cs := skipComment (skipGap cs)
    match lineEnd? cs with
    | some rest => skipLines fuel rest
    | none => cs

/-! ## Texts -/

/-- The character that digits of a code point stand for. -/
def codePoint? (n : Nat) : Option Char :=
  if n < 0xD800 ∨ (0xE000 ≤ n ∧ n < 0x110000) then some (Char.ofNat n) else none

/-- The value of exactly `count` hexadecimal digits. -/
def hexDigits? : Nat → Nat → Reader Nat
  | 0, n, cs => some (n, cs)
  | _ + 1, _, [] => none
  | count + 1, n, c :: cs => do hexDigits? count (n * 16 + (← hexDigit? c)) cs

/-- The character behind a backslash. -/
def escape? : Reader Char
  | 'b' :: rest => some ('\x08', rest)
  | 't' :: rest => some ('\t', rest)
  | 'n' :: rest => some ('\n', rest)
  | 'f' :: rest => some ('\x0c', rest)
  | 'r' :: rest => some ('\r', rest)
  | '"' :: rest => some ('"', rest)
  | '\\' :: rest => some ('\\', rest)
  | 'u' :: rest => do
    let (n, rest) ← hexDigits? 4 0 rest
    return (← codePoint? n, rest)
  | 'U' :: rest => do
    let (n, rest) ← hexDigits? 8 0 rest
    return (← codePoint? n, rest)
  | _ => none

/-- Whether a character may stand in a text as it is. -/
def isTextChar (c : Char) : Bool := c = '\t' || (0x20 ≤ c.toNat && c.toNat ≠ 0x7F)

/-- The rest of a text between double quotes. -/
def basicRest? : Nat → Reader Text
  | 0, _ => none
  | _ + 1, [] => none
  | fuel + 1, c :: cs =>
    if c = '"' then some ([], cs)
    else if c = '\\' then do
      let (d, rest) ← escape? cs
      let (s, rest) ← basicRest? fuel rest
      return (d :: s, rest)
    else if isTextChar c then do
      let (s, rest) ← basicRest? fuel cs
      return (c :: s, rest)
    else none

/-- The rest of a text between single quotes. -/
def literalRest? (cs : Text) : Option (Text × Text) :=
  let s := cs.takeWhile fun c => c ≠ '\'' && isTextChar c
  match cs.drop s.length with
  | '\'' :: rest => some (s, rest)
  | _ => none

/-- The text behind a line end right after the opening quotes. -/
def skipFirstLineEnd (cs : Text) : Text := (lineEnd? cs).getD cs

/-- The text behind a backslash that ends a line: blanks, the line end, and all
blanks and line ends after it. -/
def continuation? (cs : Text) : Option Text :=
  (lineEnd? (skipGap cs)).map fun rest =>
    let rec skip : Nat → Text → Text
      | 0, cs => cs
      | fuel + 1, cs =>
        match lineEnd? (skipGap cs) with
        | some rest => skip fuel rest
        | none => skipGap cs
    skip rest.length rest

/-- The end of a text over several lines: three quotes, with up to two more
before them that belong to the text. -/
def closingQuotes? (q : Char) (cs : Text) : Option (Text × Text) :=
  let count := (cs.takeWhile (· = q)).length
  if count < 3 then none
  else
    let inner := min (count - 3) 2
    some (List.replicate inner q, cs.drop (inner + 3))

/-- The rest of a text over several lines; `escapes` says whether backslashes count. -/
def longRest? (q : Char) (escapes : Bool) : Nat → Reader Text
  | 0, _ => none
  | _ + 1, [] => none
  | fuel + 1, c :: cs =>
    match closingQuotes? q (c :: cs) with
    | some (s, rest) => some (s, rest)
    | none =>
      match lineEnd? (c :: cs) with
      | some rest => do
        let (s, rest) ← longRest? q escapes fuel rest
        return ('\n' :: s, rest)
      | none =>
        if c = '\\' ∧ escapes = true then
          match continuation? cs with
          | some rest => longRest? q escapes fuel rest
          | none => do
            let (d, rest) ← escape? cs
            let (s, rest) ← longRest? q escapes fuel rest
            return (d :: s, rest)
        else if isTextChar c then do
          let (s, rest) ← longRest? q escapes fuel cs
          return (c :: s, rest)
        else none

def shortText? : Reader Text
  | '"' :: rest => basicRest? (rest.length + 1) rest
  | '\'' :: rest => literalRest? rest
  | _ => none

def text? (cs : Text) : Option (Text × Text) :=
  match cs with
  | '"' :: '"' :: '"' :: rest =>
    longRest? '"' true (rest.length + 1) (skipFirstLineEnd rest)
  | '\'' :: '\'' :: '\'' :: rest =>
    longRest? '\'' false (rest.length + 1) (skipFirstLineEnd rest)
  | _ => shortText? cs

/-! ## Keys -/

/-- Whether a character may stand in a bare key. -/
def isBare (c : Char) : Bool := c.isAlphanum || c = '_' || c = '-'

def keyPart? (cs : Text) : Option (Text × Text) :=
  match shortText? cs with
  | some found => some found
  | none =>
    let bare := cs.takeWhile isBare
    if bare = [] then none else some (bare, cs.drop bare.length)

/-- The parts of a key, with dots between them and blanks around the dots. -/
def keyParts? : Nat → Reader (List Text)
  | 0, _ => none
  | fuel + 1, cs => do
    let (part, rest) ← keyPart? (skipGap cs)
    match skipGap rest with
    | '.' :: rest =>
      let (parts, rest) ← keyParts? fuel rest
      return (part :: parts, rest)
    | rest => return ([part], rest)

/-- How deep values may nest, and how many parts a key may have. -/
def maxDepth : Nat := 79

def key? (cs : Text) : Option (List Text × Text) := do
  let (parts, rest) ← keyParts? (cs.length + 1) cs
  if parts.length ≤ maxDepth then return (parts, rest) else none

/-! ## Numbers and dates -/

/-- Digits with single underscores between them, at least one digit. -/
def digitRun? (isDigit : Char → Bool) (cs : Text) : Option (Text × Text) :=
  let run := cs.takeWhile fun c => isDigit c || c = '_'
  let parts := Text.split (· = '_') run
  if parts.any List.isEmpty then none else some (parts.flatten, cs.drop run.length)

/-- Whether an integer fits into 64 bits. -/
def fits (n : Int) : Bool := -0x8000000000000000 ≤ n && n ≤ 0x7FFFFFFFFFFFFFFF

def radixInt? (isDigit : Char → Bool) (base : Nat) (cs : Text) : Option (Toml × Text) := do
  let (ds, rest) ← digitRun? isDigit cs
  let n := ds.foldl (fun n c => n * base + (hexDigit? c).getD 0) 0
  if fits n then return (.int n, rest) else none

def fraction? (cs : Text) : Option (Option Text × Text) :=
  match cs with
  | '.' :: rest => (digitRun? Char.isDigit rest).map fun (ds, rest) => (some ds, rest)
  | _ => some (none, cs)

def exponent? (cs : Text) : Option (Option Int × Text) :=
  match cs with
  | c :: rest =>
    if c = 'e' ∨ c = 'E' then
      let negative := rest.head? == some '-'
      let rest := if negative ∨ rest.head? = some '+' then rest.drop 1 else rest
      (digitRun? Char.isDigit rest).map fun (ds, rest) =>
        let n : Int := decimal ds
        (some (if negative then -n else n), rest)
    else some (none, cs)
  | [] => some (none, cs)

/-- A number in base 10, or one of the words for infinity and no number. One that
is too large to be finite is refused, but one that is too far below zero is not. -/
def decimalNumber? (cs : Text) : Option (Toml × Text) :=
  let signed := cs.head? == some '-' || cs.head? == some '+'
  let negative := cs.head? == some '-'
  let body := if signed then cs.drop 1 else cs
  match body with
  | 'i' :: 'n' :: 'f' :: rest => some (.float, rest)
  | 'n' :: 'a' :: 'n' :: rest => some (.float, rest)
  | _ => do
    let (whole, rest) ← digitRun? Char.isDigit body
    if whole.length > 1 ∧ whole.head? = some '0' then none
    let (fraction, rest) ← fraction? rest
    let (exponent, rest) ← exponent? rest
    match fraction, exponent with
    | none, none =>
      let n : Int := decimal whole
      let n := if negative then -n else n
      if fits n then return (.int n, rest) else none
    | _, _ =>
      let ds := fraction.getD []
      if negative || isFinite (whole ++ ds) (exponent.getD 0 - ds.length) then
        return (.float, rest)
      else none

def fixedDigits? (count : Nat) (cs : Text) : Option (Nat × Text) :=
  let ds := cs.take count
  if ds.length = count ∧ ds.all Char.isDigit then some (decimal ds, cs.drop count) else none

/-- The text behind one given character. -/
def char? (c : Char) : Text → Option Text
  | d :: rest => if d = c then some rest else none
  | [] => none

def daysIn (year month : Nat) : Nat :=
  if month = 2 then
    if year % 4 = 0 ∧ (year % 100 ≠ 0 ∨ year % 400 = 0) then 29 else 28
  else if month = 4 ∨ month = 6 ∨ month = 9 ∨ month = 11 then 30
  else 31

/-- The text behind a day of a year. -/
def day? (cs : Text) : Option Text := do
  let (year, rest) ← fixedDigits? 4 cs
  let (month, rest) ← fixedDigits? 2 (← char? '-' rest)
  let (day, rest) ← fixedDigits? 2 (← char? '-' rest)
  if 1 ≤ month ∧ month ≤ 12 ∧ 1 ≤ day ∧ day ≤ daysIn year month then return rest else none

def timeOfDay? (cs : Text) : Option Text := do
  let (hour, rest) ← fixedDigits? 2 cs
  let (minute, rest) ← fixedDigits? 2 (← char? ':' rest)
  let (second, rest) ← fixedDigits? 2 (← char? ':' rest)
  if hour ≤ 23 ∧ minute ≤ 59 ∧ second ≤ 60 then
    match rest with
    | '.' :: rest => do
      let (_, rest) ← digits? rest
      return rest
    | _ => return rest
  else none

/-- The text behind the offset of a time zone, if there is one. -/
def zone? (cs : Text) : Option Text :=
  match cs with
  | 'Z' :: rest => some rest
  | 'z' :: rest => some rest
  | c :: rest =>
    if c = '+' ∨ c = '-' then do
      let (hour, rest) ← fixedDigits? 2 rest
      let (minute, rest) ← fixedDigits? 2 (← char? ':' rest)
      if hour ≤ 23 ∧ minute ≤ 59 then return rest else none
    else some cs
  | [] => some cs

/-- Whether a text begins like a date: four digits and a hyphen. -/
def looksLikeDay (cs : Text) : Bool := ((fixedDigits? 4 cs).bind fun (_, r) => char? '-' r).isSome

/-- Whether a text begins like a time: two digits and a colon. -/
def looksLikeTime (cs : Text) : Bool := ((fixedDigits? 2 cs).bind fun (_, r) => char? ':' r).isSome

def date? (cs : Text) : Option (Toml × Text) :=
  if looksLikeDay cs then do
    let rest ← day? cs
    match rest with
    | c :: time =>
      if (c = 'T' ∨ c = 't' ∨ c = ' ') ∧ looksLikeTime time then
        return (.date, ← zone? (← timeOfDay? time))
      else return (.date, rest)
    | [] => return (.date, rest)
  else if looksLikeTime cs then (timeOfDay? cs).map fun rest => (.date, rest)
  else none

def numberOrDate? (cs : Text) : Option (Toml × Text) :=
  if looksLikeDay cs ∨ looksLikeTime cs then date? cs
  else match cs with
    | '0' :: 'x' :: rest => radixInt? (fun c => (hexDigit? c).isSome) 16 rest
    | '0' :: 'o' :: rest => radixInt? (fun c => '0' ≤ c && c ≤ '7') 8 rest
    | '0' :: 'b' :: rest => radixInt? (fun c => c = '0' || c = '1') 2 rest
    | _ => decimalNumber? cs

/-! ## Values -/

mutual

/-- A value. `fuel` bounds the steps, and `depth` is how deep values may still nest. -/
def value? : Nat → Nat → Reader Toml
  | 0, _, _ => none
  | fuel + 1, depth, cs =>
    match cs, depth with
    | '[' :: _, 0 => none
    | '[' :: rest, depth + 1 => (items? fuel depth rest).map fun (xs, rest) => (.array xs, rest)
    | '{' :: _, 0 => none
    | '{' :: rest, depth + 1 =>
      match skipGap rest with
      | '}' :: rest => some (.table .braces [], rest)
      | rest => (pairs? fuel depth [] rest).map fun (fs, rest) => (.table .braces fs, rest)
    | 't' :: 'r' :: 'u' :: 'e' :: rest, _ => some (.bool true, rest)
    | 'f' :: 'a' :: 'l' :: 's' :: 'e' :: rest, _ => some (.bool false, rest)
    | c :: _, _ =>
      if c = '"' ∨ c = '\'' then (text? cs).map fun (s, rest) => (.str s, rest)
      else numberOrDate? cs
    | [], _ => none

/-- The items of an array and the text behind its bracket. -/
def items? : Nat → Nat → Reader (List Toml)
  | 0, _, _ => none
  | fuel + 1, depth, cs =>
    match skipLines (cs.length + 1) cs with
    | ']' :: rest => some ([], rest)
    | cs => do
      let (v, rest) ← value? fuel depth cs
      match skipLines (rest.length + 1) rest with
      | ',' :: rest =>
        let (vs, rest) ← items? fuel depth rest
        return (v :: vs, rest)
      | ']' :: rest => return ([v], rest)
      | _ => none

/-- The pairs of a table between braces, at least one, and the text behind its brace. -/
def pairs? : Nat → Nat → Fields → Reader Fields
  | 0, _, _, _ => none
  | fuel + 1, depth, before, cs => do
    let (path, rest) ← key? cs
    match rest with
    | '=' :: rest =>
      let (v, rest) ← value? fuel depth (skipGap rest)
      let fields ← setIn? [] path v before
      match skipGap rest with
      | ',' :: rest => pairs? fuel depth fields rest
      | '}' :: rest => return (fields, rest)
      | _ => none
    | _ => none

end

/-! ## Lines -/

/-- What the lines so far amount to: the fields, and the header in force. -/
structure State where
  fields : Fields
  header : List Text
  deriving Repr

/-- The text of the next line, if nothing but blanks and a comment is left on this one. -/
def finishLine? (cs : Text) : Option Text :=
  match skipComment (skipGap cs) with
  | [] => some []
  | cs => lineEnd? cs

/-- One line that starts with something other than a blank, and the text behind it. -/
def line? (st : State) (cs : Text) : Option (State × Text) :=
  match cs with
  | '[' :: '[' :: rest => do
    let (path, rest) ← key? rest
    match rest with
    | ']' :: ']' :: rest =>
      return (⟨← openElement? path st.fields, path⟩, ← finishLine? rest)
    | _ => none
  | '[' :: rest => do
    let (path, rest) ← key? rest
    match rest with
    | ']' :: rest => return (⟨← openTable? path st.fields, path⟩, ← finishLine? rest)
    | _ => none
  | _ => do
    let (path, rest) ← key? cs
    match rest with
    | '=' :: rest =>
      let (v, rest) ← value? (2 * rest.length + 2) maxDepth (skipGap rest)
      return (⟨← setIn? st.header path v st.fields, st.header⟩, ← finishLine? rest)
    | _ => none

def lines? : Nat → State → Text → Option Fields
  | 0, _, _ => none
  | fuel + 1, st, cs =>
    match skipLines (cs.length + 1) cs with
    | [] => some st.fields
    | cs => do
      let (st, rest) ← line? st cs
      lines? fuel st rest

/-- The text without a byte order mark at its start. -/
def dropMark (cs : Text) : Text :=
  match cs with
  | c :: rest => if c.toNat = 0xFEFF then rest else cs
  | [] => []

def parse? (cs : Text) : Option Fields := lines? (cs.length + 2) ⟨[], []⟩ (dropMark cs)

end Toml

end ClassLens
