import ClassLens.Text.Blank
import ClassLens.Stylesheet.ClassName
/-
  Selectors — the classes a selector list defines

  Each selector of the list defines the first class of its subject, the last
  compound: `.card .title` defines `title` and `.a.b` defines `a`. A subject
  with a pseudo-class or pseudo-element is a state of something else and
  defines nothing. Round and square brackets count as one kind; what they hold
  separates nothing and names nothing.
-/

namespace ClassLens

namespace Stylesheet

/-- The bracket depth after one more character. -/
def bracketDepth (depth : Nat) (c : Char) : Nat :=
  if c = '(' ∨ c = '[' then depth + 1
  else if c = ')' ∨ c = ']' then depth - 1
  else depth

/-- The pieces between top-level commas, with their byte offsets. `run` holds
the current piece, last character first. -/
def splitSelectors (depth start : Nat) (run : Text) : Text → List (Nat × Text)
  | [] => [(start, run.reverse)]
  | c :: cs =>
    if c = ',' ∧ depth = 0 then
      (start, run.reverse) :: splitSelectors 0 (start + Text.bytes run + 1) [] cs
    else splitSelectors (bracketDepth depth c) start (c :: run) cs

/-- Whether a character separates compounds. -/
def isCombinator (c : Char) : Bool :=
  c = ' ' || c = '\t' || c = '\r' || c = '\n' || c = '>' || c = '+' || c = '~'

/-- The stretch behind the last top-level combinator, with its byte offset. -/
def lastCompound (depth start : Nat) (run : Text) : Text → Nat × Text
  | [] => (start, run.reverse)
  | c :: cs =>
    if isCombinator c ∧ depth = 0 then lastCompound 0 (start + Text.bytes run + 1) [] cs
    else lastCompound (bracketDepth depth c) start (c :: run) cs

/-- The first class of a compound with the offset of its dot, or `none` when
the compound has no class, or a colon outside brackets. -/
def compoundClass (depth offset : Nat) (found : Option (Nat × Text)) :
    Text → Option (Nat × Text)
  | [] => found
  | c :: cs =>
    if c = ':' ∧ depth = 0 then none
    else
      let found' :=
        if c = '.' ∧ depth = 0 ∧ found.isNone then
          (ClassName.leading? cs).map fun name => (offset, name)
        else found
      compoundClass (bracketDepth depth c) (offset + c.utf8Size) found' cs

/-- The class a selector defines, with the offset of its dot. -/
def subjectClass (selector : Text) : Option (Nat × Text) :=
  let (start, compound) := lastCompound 0 0 [] (Text.trimEnd selector)
  (compoundClass 0 0 none compound).map fun (offset, name) => (start + offset, name)

/-- The classes without those whose name came before. -/
def firstOfName : List (Nat × Text) → List (Nat × Text) :=
  List.foldl (fun found c => if found.any (·.2 = c.2) then found else found ++ [c]) []

/-- The classes a selector list defines, each once, with the offsets of their dots. -/
def selectorClasses (prelude : Text) : List (Nat × Text) :=
  firstOfName <| (splitSelectors 0 0 [] prelude).filterMap fun (start, selector) =>
    (subjectClass selector).map fun (offset, name) => (start + offset, name)

end Stylesheet

end ClassLens
