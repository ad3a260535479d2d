import ClassLens.Text.Basic
/-
  Punycode — labels of a domain in plain letters

  A label beyond ASCII can be written in letters, digits and hyphens: first its
  ASCII characters, then a hyphen, then digits that say step by step which
  character goes where. Only reading is needed here.

  What this holds:
    1. `takeNumber?`, a number of variable length at the front of the digits;
    2. `decode?`, the label that is written so.
-/

namespace ClassLens

namespace Domain

namespace Punycode

/-- The value of a digit: letters first, then figures. -/
def digit? (c : Char) : Option Nat :=
  if c.isLower then some (c.toNat - 'a'.toNat)
  else if c.isDigit then some (c.toNat - '0'.toNat + 26)
  else none

/-- The least value of a last digit, by the place of the digit. -/
def threshold (k bias : Nat) : Nat :=
  if k ≤ bias then 1 else if bias + 26 ≤ k then 26 else k - bias

/-- The number at the front of the digits, and the digits behind it. -/
def takeNumber? (bias : Nat) : Nat → Nat → Nat → Text → Option (Nat × Text)
  | _, _, _, [] => none
  | k, weight, sum, c :: rest => do
    let d ← digit? c
    let t := threshold k bias
    let sum := sum + d * weight
    if d < t then return (sum, rest) else takeNumber? bias (k + 36) (weight * (36 - t)) sum rest

/-- The number of times 35 goes into a difference before it is small, and what is left of it. -/
def shrink : Nat → Nat → Nat × Nat
  | 0, delta => (0, delta)
  | fuel + 1, delta =>
    if delta > 455 then
      let (n, left) := shrink fuel (delta / 35)
      (n + 1, left)
    else (0, delta)

/-- How the places of the next number weigh, after a difference in a label of a given length. -/
def adapt (delta length : Nat) (isFirst : Bool) : Nat :=
  let delta := if isFirst then delta / 700 else delta / 2
  let delta := delta + delta / length
  let (n, left) := shrink delta delta
  36 * n + 36 * left / (left + 38)

/-- A label on its way: the characters so far, the code point that comes next
and the place that it would take. -/
structure Progress where
  label : Text
  codePoint : Nat
  place : Nat
  bias : Nat

/-- The label before the first digit. -/
def Progress.start (basic : Text) : Progress := ⟨basic, 0x80, 0, 72⟩

/-- The label after one more number. -/
def Progress.advance? (p : Progress) (delta : Nat) (isFirst : Bool) : Option Progress :=
  let size := p.label.length + 1
  let i := p.place + delta
  let codePoint := p.codePoint + i / size
  if codePoint.isValidChar then
    let spot := i % size
    some ⟨p.label.take spot ++ Char.ofNat codePoint :: p.label.drop spot, codePoint, spot + 1,
      adapt delta size isFirst⟩
  else none

/-- Goes on with a label until no digit is left; every round uses at least one up. -/
def finish? : Nat → Progress → Bool → Text → Option Text
  | _, p, _, [] => some p.label
  | 0, _, _, _ :: _ => none
  | fuel + 1, p, isFirst, digits => do
    let (delta, rest) ← takeNumber? p.bias 36 1 0 digits
    finish? fuel (← p.advance? delta isFirst) false rest

def decode? (cs : Text) : Option Text :=
  let digits := (cs.reverse.takeWhile (· ≠ '-')).reverse
  let basic := cs.take (cs.length - digits.length - 1)
  if basic = [] ∧ '-' ∈ cs then none
  else finish? digits.length (Progress.start basic) true digits

end Punycode

end Domain

end ClassLens
