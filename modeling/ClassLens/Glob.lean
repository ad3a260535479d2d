import ClassLens.Text.Basic
/-
  Globs — patterns over paths

  A question mark stands for any one character, a star for any run of them, and
  a set in square brackets for one character in it (or outside it, after an
  exclamation mark). All three match slashes too. Two stars stand for any
  number of whole path components and have to be a component themselves.

  What this holds:
    1. `Token` and `parse`, with the causes of a malformed pattern, `GlobError`;
    2. `Pattern.accepts`, whether a pattern matches a whole text.
-/

namespace ClassLens

namespace Glob

/-- A member of a bracketed set: one character, or all between two. -/
inductive Member where
  | one (c : Char)
  | between (low high : Char)
  deriving Repr, DecidableEq

/-- One element of a pattern. -/
inductive Token where
  | char (c : Char)
  | anyChar
  | anySequence
  | anyComponents
  | within (members : List Member)
  | except (members : List Member)
  deriving Repr, DecidableEq

/-- What is wrong with a pattern. -/
inductive Mistake where
  | wildcards
  | recursiveWildcards
  | range
  deriving Repr, DecidableEq

def Mistake.message : Mistake → Text
  | .wildcards => "wildcards are either regular `*` or recursive `**`".toList
  | .recursiveWildcards => "recursive wildcards must form a single path component".toList
  | .range => "invalid range pattern".toList

/-- A malformed pattern: the mistake, and the position of the character it shows at. -/
structure GlobError where
  pattern : Text
  position : Nat
  mistake : Mistake
  deriving Repr, DecidableEq

def GlobError.message (e : GlobError) : Text :=
  "Invalid glob pattern ".toList ++ e.pattern ++ ": Pattern syntax error near position ".toList ++
    Text.ofNat e.position ++ ": ".toList ++ e.mistake.message

/-- A parsed pattern. -/
structure Pattern where
  tokens : List Token
  deriving Repr, DecidableEq

def members : Text → List Member
  | a :: '-' :: b :: rest => .between a b :: members rest
  | a :: rest => .one a :: members rest
  | [] => []

/-- The content of a bracketed set up to its closing bracket, which cannot be the
first character of the content. -/
def bracketContent? : Text → Option Text
  | [] => none
  | first :: rest =>
    let inner := rest.takeWhile (· ≠ ']')
    if inner.length < rest.length then some (first :: inner) else none

/-- The token that a pattern's rest begins with, and the number of characters it
takes; `position` and `before` say where the rest stands. -/
def tokenAt (position : Nat) (before : Option Char) (c : Char) (cs : Text) :
    Except (Nat × Mistake) (Token × Nat) :=
  if c = '?' then .ok (.anyChar, 1)
  else if c = '*' then
    let stars := 1 + (cs.takeWhile (· = '*')).length
    if stars > 2 then .error (position + 2, .wildcards)
    else if stars = 1 then .ok (.anySequence, 1)
    else if before = none ∨ before = some '/' then
      match cs.drop 1 with
      | [] => .ok (.anyComponents, 2)
      | d :: _ =>
        if d = '/' then .ok (.anyComponents, 3)
        else .error (position + 2, .recursiveWildcards)
    else .error (position - 1, .recursiveWildcards)
  else if c = '[' then
    match cs with
    | '!' :: rest =>
      match bracketContent? rest with
      | some content => .ok (.except (members content), content.length + 3)
      | none => .error (position, .range)
    | _ =>
      match bracketContent? cs with
      | some content => .ok (.within (members content), content.length + 2)
      | none => .error (position, .range)
  else .ok (.char c, 1)

/-- The tokens so far, last one first, with one more. Component wildcards in a
row count once, unless they begin the pattern. -/
def pushToken (tokens : List Token) (t : Token) : List Token :=
  if t = .anyComponents ∧ tokens.length > 1 ∧ tokens.head? = some .anyComponents then tokens
  else t :: tokens

/-- Parses from a place on; `skip` characters belong to the token before. -/
def parseFrom (position skip : Nat) (before : Option Char) (tokens : List Token) :
    Text → Except (Nat × Mistake) (List Token)
  | [] => .ok tokens.reverse
  | c :: cs =>
    match skip with
    | skip' + 1 => parseFrom (position + 1) skip' (some c) tokens cs
    | 0 =>
      match tokenAt position before c cs with
      | .error e => .error e
      | .ok (t, width) => parseFrom (position + 1) (width - 1) (some c) (pushToken tokens t) cs

def parse (pattern : Text) : Except GlobError Pattern :=
  match parseFrom 0 0 none [] pattern with
  | .ok tokens => .ok ⟨tokens⟩
  | .error (position, mistake) => .error ⟨pattern, position, mistake⟩

/-! ## Matching -/

/-- How an attempt to match ends: it succeeds, it meets a difference, or the text
runs out, in which case no shorter text matches either. -/
inductive Outcome where
  | matches
  | differs
  | exhausted
  deriving Repr, DecidableEq

/-- Whether a member of a set covers a character. -/
def Member.covers (c : Char) : Member → Bool
  | .one d => c == d
  | .between low high => low.toNat ≤ c.toNat && c.toNat ≤ high.toNat

/-- Whether a token for one character accepts a character. -/
def Token.accepts (c : Char) : Token → Bool
  | .char d => c == d
  | .anyChar => true
  | .within ms => ms.any (Member.covers c)
  | .except ms => !ms.any (Member.covers c)
  | .anySequence => false
  | .anyComponents => false

/-- Tries to go on behind each character that `stop` holds of, and at the end. -/
def tryBehind (stop : Char → Bool) (goOn : Text → Outcome) : Text → Outcome
  | [] => goOn []
  | c :: cs =>
    if stop c then
      match goOn cs with
      | .differs => tryBehind stop goOn cs
      | outcome => outcome
    else tryBehind stop goOn cs

def matchTokens : List Token → Text → Outcome
  | [], [] => .matches
  | [], _ :: _ => .differs
  | .anySequence :: rest, cs =>
    match matchTokens rest cs with
    | .differs => tryBehind (fun _ => true) (matchTokens rest) cs
    | outcome => outcome
  | .anyComponents :: rest, cs =>
    match matchTokens rest cs with
    | .differs => tryBehind (· = '/') (matchTokens rest) cs
    | outcome => outcome
  | _ :: _, [] => .exhausted
  | t :: rest, c :: cs => if t.accepts c then matchTokens rest cs else .differs

/-- Whether a pattern matches a whole text. -/
def Pattern.accepts (p : Pattern) (text : Text) : Bool := matchTokens p.tokens text = .matches

/-- Parses several patterns; the first malformed one is refused. -/
def parseAll (patterns : List Text) : Except GlobError (List Pattern) := patterns.mapM parse

end Glob

end ClassLens
