import ClassLens.Text.Blank
import ClassLens.Text.Word
/-
  Scanning for imports — where a component's text names stylesheets

  Three shapes count, with any blanks between the words:

    1. `import './a.css'`
    2. `import name from './a.css'`
    3. `import * as name from './a.css'`

  The path stands between any two quotes, holds no quote and no line break, and
  ends in `.css` after at least one other character. The scan goes on behind
  each import it finds.
-/

namespace ClassLens

namespace ImportScan

/-- An import as it stands in the text. -/
structure Found where
  path : Text
  line : Nat
  deriving Repr, DecidableEq

def word? (w : Text) (cs : Text) : Option Text :=
  if Text.startsWith w cs then some (cs.drop w.length) else none

/-- The text behind at least one blank. -/
def blanks? : Text → Option Text
  | [] => none
  | c :: cs => if Text.isBlank c then some (Text.trimStart cs) else none

def identifier? : Text → Option Text
  | [] => none
  | c :: cs =>
    if c.isAlpha ∨ c = '_' ∨ c = '$' then
      some (cs.dropWhile fun c => Text.isWord c || c = '$')
    else none

/-- The text behind the name that an import binds: `name`, or `* as name`. -/
def binding? (cs : Text) : Option Text :=
  match cs with
  | '*' :: rest => do identifier? (← blanks? (← word? ['a', 's'] (← blanks? rest)))
  | _ => identifier? cs

/-- The text behind a binding and the word `from`. -/
def clause? (cs : Text) : Option Text := do
  blanks? (← word? ['f', 'r', 'o', 'm'] (← blanks? (← binding? cs)))

def isQuote (c : Char) : Bool := c = '"' || c = '\''

/-- What a stylesheet path ends in. -/
def cssSuffix : Text := ['.', 'c', 's', 's']

/-- Whether a text ends in `.css` after at least one other character. -/
def isStylesheetPath (path : Text) : Bool :=
  cssSuffix.length < path.length && cssSuffix.isSuffixOf path

/-- The stylesheet path between two quotes, and the text behind it. -/
def quotedPath? : Text → Option (Text × Text)
  | [] => none
  | q :: cs =>
    let path := cs.takeWhile fun c => !isQuote c && c ≠ '\n'
    match cs.drop path.length with
    | [] => none
    | q' :: rest =>
      if isQuote q ∧ isQuote q' ∧ isStylesheetPath path then some (path, rest) else none

/-- The path of the import that a text begins with, and the text behind it. -/
def importAt? (cs : Text) : Option (Text × Text) := do
  let rest ← blanks? (← word? "import".toList cs)
  match clause? rest with
  | some afterFrom => quotedPath? afterFrom
  | none => quotedPath? rest

/-- The imports from a place on: `skip` characters are passed over first, as
they belong to an import already found, and `line` is the current line. -/
def scanFrom (line skip : Nat) : Text → List Found
  | [] => []
  | c :: cs =>
    let line' := if c = '\n' then line + 1 else line
    match skip with
    | skip' + 1 => scanFrom line' skip' cs
    | 0 =>
      match importAt? (c :: cs) with
      | none => scanFrom line' 0 cs
      | some (path, rest) => ⟨path, line⟩ :: scanFrom line' (cs.length - rest.length) cs

/-- All imports of a text, in order, each with the line it starts on. -/
def scan (text : Text) : List Found := scanFrom 1 0 text

end ImportScan

end ClassLens
