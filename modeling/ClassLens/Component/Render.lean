import ClassLens.Component.Basic
/-
  Rendering — the definitions of a class as readable blocks

  Plain definitions come first and those inside a media block after them, each
  group in its own order. A definition from a media block is shown inside that
  block, indented. Every definition becomes one fenced block of style rules.
-/

namespace ClassLens

/-- A definition as it is shown. -/
structure Rendered where
  mediaQuery : Option Text
  css : Text
  deriving Repr, DecidableEq

namespace Component

/-- A rule inside the block of a media query, each line indented by two spaces. -/
def wrapInMedia (query rule : Text) : Text :=
  let body := (Text.lines (Text.trim rule)).map fun line => ' ' :: ' ' :: Text.trimEnd line
  query ++ [' ', '{', '\n'] ++ Text.join ['\n'] body ++ ['\n', '}']

def renderOne (c : Component) (d : Definition) : Rendered :=
  match c.mediaQueryOf d with
  | some query => ⟨some query, wrapInMedia query d.source⟩
  | none => ⟨none, Text.trim d.source⟩

/-- The definitions as they are shown: plain ones first, then those of media blocks. -/
def order (c : Component) (ds : List Definition) : List Rendered :=
  let shown := ds.map (renderOne c)
  shown.filter (·.mediaQuery.isNone) ++ shown.filter (·.mediaQuery.isSome)

/-- One shown definition as a fenced block. -/
def fence (r : Rendered) : Text := "```css\n".toList ++ r.css ++ "\n```".toList

/-- All given definitions as fenced blocks, a blank line between them. -/
def markdown (c : Component) (ds : List Definition) : Text :=
  Text.join ['\n', '\n'] ((c.order ds).map fence)

end Component

end ClassLens
