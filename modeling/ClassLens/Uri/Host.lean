import ClassLens.Domain.Basic
import ClassLens.Uri.Percent
/-
  Hosts — the machine that a URI names

  A host is a domain or an address. An address of version 4 is one to four
  numbers, of which the last fills the bytes that are left; each may be decimal,
  octal or hexadecimal. An address of version 6 stands in square brackets and is
  eight numbers, of which one run of zeros may be left out, and of which the
  last two may be written as an address of version 4.

  What this holds:
    1. `Host`, with `toText`, its normal form;
    2. `ipv4?` and `ipv6?`, the two kinds of addresses;
    3. `Host.ofText?` for schemes that know domains, and `Host.ofPlainText?` for
       all others.
-/

namespace ClassLens

/-- A machine. -/
inductive Host where
  | domain (name : Text)
  | ipv4 (address : Nat)
  | ipv6 (pieces : List Nat)
  deriving Repr, DecidableEq

namespace Host

/-- The host of a URI that names no machine. -/
def missing : Host := .domain []

/-- This machine. -/
def localhost : Host := .domain "localhost".toList

def number (base : Nat) (digits : List Nat) : Nat := digits.foldl (fun n d => n * base + d) 0

def toText : Host → Text
  | .domain name => name
  | .ipv4 a =>
    Text.join ['.'] ([a / 0x1000000, a / 0x10000 % 256, a / 0x100 % 256, a % 256].map Text.ofNat)
  | .ipv6 pieces => '[' :: Text.join [':'] (pieces.map Text.hex) ++ [']']

/-! ## Addresses of version 4 -/

/-- A number of an address of version 4: hexadecimal behind `0x`, octal behind
another zero, decimal otherwise. -/
def ipv4Number? (cs : Text) : Option Nat :=
  let (base, digits) := match cs with
    | '0' :: 'x' :: rest => (16, rest)
    | '0' :: 'X' :: rest => (16, rest)
    | '0' :: c :: rest => (8, c :: rest)
    | _ => (10, cs)
  if cs = [] then none
  else (digits.mapM Percent.digit?).bind fun ds =>
    if ds.all (· < base) then some (number base ds) else none

/-- The labels of a domain, without an empty one at its end. -/
def labels (cs : Text) : List Text :=
  let parts := Text.split (· = '.') cs
  if parts.length > 1 ∧ parts.getLast? = some [] then parts.dropLast else parts

/-- Whether a domain ends in a number, so that it has to be an address. -/
def endsInNumber (cs : Text) : Bool :=
  match (labels cs).getLast? with
  | some last => (last ≠ [] && last.all Char.isDigit) || (ipv4Number? last).isSome
  | none => false

def ipv4? (cs : Text) : Option Nat := do
  let parts := labels cs
  let numbers ← parts.mapM ipv4Number?
  let last ← numbers.getLast?
  let before := numbers.dropLast
  if parts.length > 4 ∨ before.any (255 < ·) ∨ last ≥ Nat.pow 256 (4 - before.length) then none
  else some (number 256 before * Nat.pow 256 (4 - before.length) + last)

/-! ## Addresses of version 6 -/

/-- A number of an address of version 6: one to four hexadecimal digits. -/
def ipv6Piece? (cs : Text) : Option Nat :=
  if cs = [] ∨ cs.length > 4 then none else (cs.mapM Percent.digit?).map (number 16)

/-- A byte in decimal digits without a zero in front. -/
def decimalByte? (cs : Text) : Option Nat :=
  let n := number 10 (cs.map fun c => c.toNat - '0'.toNat)
  if cs = [] ∨ !cs.all Char.isDigit ∨ (cs.head? = some '0' ∧ cs.length > 1) ∨ n > 255 then none
  else some n

/-- The last part of an address of version 6: one number, or two as an address of version 4. -/
def ipv6Last? (cs : Text) : Option (List Nat) :=
  if '.' ∈ cs then do
    match ← (Text.split (· = '.') cs).mapM decimalByte? with
    | [a, b, c, d] => some [a * 256 + b, c * 256 + d]
    | _ => none
  else (ipv6Piece? cs).map fun n => [n]

/-- The numbers of parts in a row. -/
def ipv6Pieces? : List Text → Option (List Nat)
  | [] => some []
  | [last] => ipv6Last? last
  | part :: rest => do return (← ipv6Piece? part) :: (← ipv6Pieces? rest)

/-- The numbers behind a gap; nothing at all may stand there. -/
def behindGap? (parts : List Text) : Option (List Nat) :=
  if parts = [[]] then some [] else ipv6Pieces? parts

/-- The numbers before and behind a gap, with zeros between them. -/
def fillGap? (before behind : List Nat) : Option (List Nat) :=
  let given := before.length + behind.length
  if given > 7 then none else some (before ++ List.replicate (8 - given) 0 ++ behind)

/-- An address of version 6, without the brackets around it. -/
def ipv6? (cs : Text) : Option (List Nat) := do
  let parts := Text.split (· = ':') cs
  let before := parts.takeWhile (· ≠ [])
  match parts.drop before.length with
  | [] =>
    let pieces ← ipv6Pieces? parts
    if pieces.length = 8 then some pieces else none
  | _ :: behind =>
    match before, behind with
    | [], [] :: behind => fillGap? [] (← behindGap? behind)
    | [], _ => none
    | before, behind =>
      if behind = [] then none
      else fillGap? (← before.mapM ipv6Piece?) (← behindGap? behind)

/-- The address between square brackets, if the text is one. -/
def bracketed? (cs : Text) : Option Host :=
  if cs.length > 1 ∧ cs.getLast? = some ']' then (ipv6? (cs.drop 1).dropLast).map .ipv6 else none

/-! ## Hosts -/

/-- The host that a text names, for schemes that know domains. -/
def ofText? (cs : Text) : Option Host :=
  if cs.head? = some '[' then bracketed? cs
  else do
    let name ← Domain.normalize? (← Utf8.decode? (Percent.decode cs))
    if name = [] then none
    else if endsInNumber name then (ipv4? name).map .ipv4
    else some (.domain name)

/-- Whether a character cannot stand in the host of a scheme that knows no domains. -/
def isForbidden (c : Char) : Bool :=
  c.toNat = 0 || "\t\n\r #/:<>?@[\\]^|".toList.contains c

/-- The host that a text names, for schemes that know no domains. -/
def ofPlainText? (cs : Text) : Option Host :=
  if cs.head? = some '[' then bracketed? cs
  else if cs.any isForbidden then none
  else some (.domain (Percent.encode [] cs))

end Host

end ClassLens
