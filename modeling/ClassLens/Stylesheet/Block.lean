import ClassLens.Text.Basic
/-
  Blocks — rule heads, and the brace that closes a block

  Braces and semicolons cut a stylesheet into stretches. A stretch that ends
  with an opening brace is the head of a block. The block runs to the closing
  brace that balances it; braces inside quotes do not count, and a backslash
  inside quotes takes the next character along. A block that nothing closes
  runs to the end of the text.
-/

namespace ClassLens

namespace Stylesheet

/-- Whether the scan is inside quotes, and right behind a backslash there. -/
inductive Quoting where
  | outside
  | inside (quote : Char)
  | escaped (quote : Char)
  deriving Repr, DecidableEq

def Quoting.next : Quoting → Char → Quoting
  | .outside, c => if c = '"' ∨ c = '\'' then .inside c else .outside
  | .inside q, c => if c = '\\' then .escaped q else if c = q then .outside else .inside q
  | .escaped q, _ => .inside q

/-- The text before the closing brace that balances `depth` open blocks, and
the text after it. A closing brace with nothing open counts as closing. -/
def closeBlock : Nat → Quoting → Text → Option (Text × Text)
  | _, _, [] => none
  | depth, quoting, c :: cs =>
    if quoting = .outside ∧ c = '}' ∧ depth ≤ 1 then some ([], cs)
    else
      let depth' :=
        if quoting = .outside ∧ c = '{' then depth + 1
        else if quoting = .outside ∧ c = '}' then depth - 1
        else depth
      (closeBlock depth' (quoting.next c) cs).map fun (body, rest) => (c :: body, rest)

/-- The offset of the brace that closes the block opened at byte `start`. -/
def matchingBrace (css : Text) (start : Nat) : Option Nat :=
  let (offset, rest) := Text.fromOffset start 0 css
  (closeBlock 0 .outside rest).map fun (body, _) => offset + Text.bytes body

/-- The head of a block. -/
structure Head where
  /-- The byte offset of the stretch before the opening brace. -/
  start : Nat
  /-- The stretch itself. -/
  prelude : Text
  /-- All the text behind the opening brace. -/
  rest : Text
  deriving Repr

namespace Head

/-- The byte offset of the opening brace. -/
def brace (h : Head) : Nat := h.start + Text.bytes h.prelude

/-- The text between the braces of the block. -/
def body (h : Head) : Text :=
  match closeBlock 1 .outside h.rest with
  | some (body, _) => body
  | none => h.rest

/-- The byte offset behind the body: that of the closing brace, or the end of the text. -/
def bodyEnd (h : Head) : Nat := h.brace + 1 + Text.bytes h.body

/-- Whether a closing brace ends the block. -/
def isClosed (h : Head) : Bool := (closeBlock 1 .outside h.rest).isSome

/-- The byte offset behind the whole block. -/
def stop (h : Head) : Nat := if h.isClosed then h.bodyEnd + 1 else h.bodyEnd

end Head

/-- The heads of blocks from a place on. `run` holds the current stretch, last
character first, and `start` is its offset. -/
def headsFrom (start : Nat) (run : Text) : Text → List Head
  | [] => []
  | c :: cs =>
    if c = '{' then
      ⟨start, run.reverse, cs⟩ :: headsFrom (start + Text.bytes run + 1) [] cs
    else if c = '}' ∨ c = ';' then headsFrom (start + Text.bytes run + 1) [] cs
    else headsFrom start (c :: run) cs

/-- The heads of all blocks, in order. -/
def heads (css : Text) : List Head := headsFrom 0 [] css

end Stylesheet

end ClassLens
