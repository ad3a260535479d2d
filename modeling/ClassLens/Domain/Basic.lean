import ClassLens.Domain.Classes
import ClassLens.Domain.Composed
import ClassLens.Domain.Mapping
import ClassLens.Domain.Punycode
/-
  Domains — the name of a machine

  A domain is brought into a normal form before it is compared: characters are
  replaced by what they stand for, letters and their marks are composed, and
  labels written in plain letters are written out. What cannot be a domain is
  refused.

  What this holds:
    1. `normalize?`, a domain in normal form;
    2. the rules for a label: no mark at its start, joiners only where letters
       join, and one direction throughout.
-/

namespace ClassLens

namespace Domain

/-! ## Joiners -/

/-- The first character that is not attached to the one before it. -/
def firstOwn? (cs : Text) : Option Char := (cs.dropWhile isAttached).head?

/-- The class of the marks that bind a letter to the next one. -/
def bindingClass : Nat := 9

/-- Whether a joiner can stand between what comes before, last character first, and after. -/
def isJoinerAllowed (before : Text) (c : Char) (after : Text) : Bool :=
  match before with
  | [] => false
  | a :: _ =>
    markClass a == bindingClass ||
      (c == nonJoiner && (firstOwn? before).any joinsNext && (firstOwn? after).any joinsPrevious)

/-- Whether all joiners of a label stand where they can; `before` is what comes
before the rest, last character first. -/
def joinersAllowed (before : Text) : Text → Bool
  | [] => true
  | c :: rest =>
    ((c != nonJoiner && c != joiner) || isJoinerAllowed before c rest) &&
      joinersAllowed (c :: before) rest

/-! ## Direction -/

/-- The directions of a label without those of marks at its end. -/
def ownDirections (label : Text) : List Direction :=
  ((label.map direction).reverse.dropWhile (· == .mark)).reverse

/-- Whether a label keeps to one direction: it starts with a letter, all others
are of its direction or of none, and it ends with a letter or a digit. Written
from right to left, it holds digits of one kind only. -/
def keepsDirection (label : Text) : Bool :=
  let all := label.map direction
  let own := ownDirections label
  match all.head? with
  | none => true
  | some .left =>
    all.all (fun d => d != .right && d != .arabicDigit) &&
      own.getLast?.any fun d => d == .left || d == .digit
  | some .right =>
    all.all (· != .left) && !(all.contains .digit && all.contains .arabicDigit) &&
      own.getLast?.any fun d => d == .right || d == .digit || d == .arabicDigit
  | some _ => false

/-- Whether a label holds something that is written from right to left. -/
def turnsLeft (label : Text) : Bool :=
  label.any fun c => direction c == .right || direction c == .arabicDigit

/-! ## Labels -/

/-- The start of a label that is written in plain letters. -/
def plainStart : Text := "xn--".toList

/-- Whether a character can stand in a domain as it is. -/
def isSettled (c : Char) : Bool := !isRefused c && !isIgnored c && (mapped? c).isNone

/-- A label that is written in plain letters, written out. -/
def writtenOut? (digits : Text) : Option Text := do
  if digits = [] ∨ digits.getLast? = some '-' ∨ digits.any (0x80 ≤ ·.toNat) then none
  let label ← Punycode.decode? digits
  if label.all isSettled ∧ composed label = label then some label else none

def label? (cs : Text) : Option Text := do
  let label ←
    if Text.startsWith plainStart cs then writtenOut? (cs.drop plainStart.length) else some cs
  if label.head?.any isMark ∨ !joinersAllowed [] label then none else some label

/-- Whether a character of ASCII cannot stand in a domain. -/
def isForbidden (c : Char) : Bool :=
  c.toNat ≤ 0x20 || c.toNat = 0x7F || "#%/:<>?@[\\]^|".toList.contains c

/-- A text with its characters replaced by what they stand for. -/
def mapped (cs : Text) : Text :=
  cs.flatMap fun c => if isIgnored c then [] else (mapped? c).getD [c]

/-- A domain in normal form. -/
def normalize? (cs : Text) : Option Text := do
  if cs.any isRefused then none
  let plain := composed (mapped cs)
  if plain.any isForbidden then none
  let labels ← (Text.split (· = '.') plain).mapM label?
  if labels.any turnsLeft ∧ !labels.all keepsDirection then none
  return Text.join ['.'] labels

end Domain

end ClassLens
