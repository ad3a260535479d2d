import ClassLens.Text.Blank
import ClassLens.Text.Word
import ClassLens.Stylesheet.Block
/-
  Media queries — the media block around a place

  A block is a media block when its head holds `@media` with a word boundary
  behind it; the query is what follows the first such mark. Of the media blocks
  around a place, the one that starts last is the innermost.
-/

namespace ClassLens

namespace Stylesheet

/-- The mark of a media block. -/
def mediaMark : Text := "@media".toList

/-- What follows the first media mark in a stretch that a brace ends. -/
def mediaPrelude? : Text → Option Text
  | [] => none
  | c :: cs =>
    let after := (c :: cs).drop mediaMark.length
    if Text.startsWith mediaMark (c :: cs) ∧ Text.isWord? after.head? = false then some after
    else mediaPrelude? cs

/-- The media query of a block, if it is a media block. -/
def Head.mediaQuery? (h : Head) : Option Text :=
  (mediaPrelude? h.prelude).map fun after => mediaMark ++ ' ' :: Text.trim after

/-- Whether a byte offset lies strictly between the braces of a block. -/
def Head.encloses (h : Head) (offset : Nat) : Bool :=
  h.brace < offset && offset < h.bodyEnd

/-- The media query of the innermost media block around a byte offset. -/
def mediaQueryAt (css : Text) (offset : Nat) : Option Text :=
  ((heads css).filterMap fun h =>
    h.mediaQuery?.bind fun query => if h.encloses offset then some query else none).getLast?

end Stylesheet

end ClassLens
