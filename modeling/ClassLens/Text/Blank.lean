import ClassLens.Text.Basic
/-
  Blanks — the White_Space characters, and trimming

  White space is the Unicode White_Space property: the ASCII controls from tab
  to carriage return, the space, and nineteen characters beyond ASCII.

  What this holds:
    1. `isBlank`, the property;
    2. `trimStart`, `trimEnd`, `trim`;
    3. `lines`, the lines of a text without their line ends.
-/

namespace ClassLens

namespace Text

/-- Whether a character has the Unicode White_Space property. -/
def isBlank (c : Char) : Bool :=
  let n := c.toNat
  (0x09 ≤ n && n ≤ 0x0D) || n == 0x20 || n == 0x85 || n == 0xA0 || n == 0x1680 ||
  (0x2000 ≤ n && n ≤ 0x200A) || n == 0x2028 || n == 0x2029 || n == 0x202F || n == 0x205F ||
  n == 0x3000

def trimStart (cs : Text) : Text := cs.dropWhile isBlank

theorem trimStart_parts (cs : Text) : ∃ blanks : Text, (∀ c ∈ blanks, isBlank c = true) ∧
    cs = blanks ++ trimStart cs ∧ ∀ c ∈ (trimStart cs).head?, isBlank c = false := by
  refine ⟨cs.takeWhile isBlank, List.all_eq_true.mp List.all_takeWhile,
    List.takeWhile_append_dropWhile.symm, fun c hc => ?_⟩
  have hhead := List.head?_dropWhile_not isBlank cs
  rw [show (cs.dropWhile isBlank).head? = some c from hc] at hhead
  exact hhead

def trimEnd (cs : Text) : Text := (cs.reverse.dropWhile isBlank).reverse

/-- The text without blanks at either end. -/
def trim (cs : Text) : Text := trimEnd (trimStart cs)

/-- A line without one carriage return at its end. -/
def dropReturn (cs : Text) : Text :=
  match cs.reverse with
  | '\r' :: rest => rest.reverse
  | _ => cs

/-- The lines of a text. A line break ends a line, so none starts after a final
one; a carriage return before a line break belongs to the line end. -/
def lines (cs : Text) : List Text :=
  let pieces := split (· = '\n') cs
  let final := pieces.getLast?.getD []
  let complete := pieces.dropLast.map dropReturn
  if final.isEmpty then complete else complete ++ [final]

end Text

end ClassLens
