import ClassLens.Text.Basic
/-
  Comments — blanking them out without moving anything

  A block comment runs from a slash and a star to the next star and slash, or
  to the end. A line comment runs from two slashes to the end of the line, but
  only where a statement can start: at the start of a line, or after a brace or
  a semicolon, spaces aside. So the two slashes of `url(//host/x.png)` stay.
  Quotes protect nothing.

  Every character of a comment becomes as many spaces as it has bytes and line
  breaks stay, so all offsets and line numbers mean the same afterwards.
-/

namespace ClassLens

namespace Stylesheet

/-- What the scan stands in, with whether a line comment could start where it is code. -/
inductive CommentMode where
  | code (lineAllowed : Bool)
  | blockOpening (lineAllowed : Bool)
  | block (lineAllowed : Bool)
  | blockClosing (lineAllowed : Bool)
  | line
  deriving Repr, DecidableEq

/-- The blanks that stand for a character of a comment. -/
def blanked (c : Char) : Text :=
  if c = '\n' then ['\n'] else List.replicate c.utf8Size ' '

/-- Whether a line comment can start after a character of the code. -/
def allowsLine (lineAllowed : Bool) (c : Char) : Bool :=
  if c = '\n' ∨ c = '{' ∨ c = '}' ∨ c = ';' then true
  else if c = ' ' ∨ c = '\t' ∨ c = '\r' then lineAllowed
  else false

/-- What becomes of one character, given the one behind it: whether it is kept,
and what the scan stands in next. -/
def commentStep : CommentMode → Char → Option Char → Bool × CommentMode
  | .code ok, c, next =>
    if c = '/' ∧ next = some '*' then (false, .blockOpening ok)
    else if c = '/' ∧ next = some '/' ∧ ok = true then (false, .line)
    else (true, .code (allowsLine ok c))
  | .blockOpening ok, _, _ => (false, .block ok)
  | .block ok, c, next =>
    if c = '*' ∧ next = some '/' then (false, .blockClosing ok) else (false, .block ok)
  | .blockClosing ok, _, _ => (false, .code ok)
  | .line, c, _ => if c = '\n' then (true, .code true) else (false, .line)

/-- The text from a place on, with its comments blanked. -/
def stripFrom : CommentMode → Text → Text
  | _, [] => []
  | mode, c :: cs =>
    match commentStep mode c cs.head? with
    | (true, mode') => c :: stripFrom mode' cs
    | (false, mode') => blanked c ++ stripFrom mode' cs

/-- The text with its comments blanked. -/
def stripComments (css : Text) : Text := stripFrom (.code true) css

end Stylesheet

end ClassLens
