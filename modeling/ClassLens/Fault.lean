/-
  Faults — work that stops midway

  Some answers are computed from offsets that may fall inside a character, and
  no text can be cut there. Such a computation stops with a fault instead of an
  answer; what it had changed by then stays changed.
-/

namespace ClassLens

/-- Why a computation stopped. -/
inductive Fault where
  /-- A text was to be cut inside a character. -/
  | insideCharacter
  deriving Repr, DecidableEq

end ClassLens
