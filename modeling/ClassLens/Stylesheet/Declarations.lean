import ClassLens.Text.Blank
import ClassLens.Stylesheet.Definition
/-
  Declarations — what the body of a block sets

  Semicolons separate declarations, and the first colon of each separates the
  name from the value. A piece without a colon, with nothing on one side of it,
  or with a brace in it declares nothing.
-/

namespace ClassLens

namespace Stylesheet

/-- The text before and after the first colon. -/
def splitColon : Text → Option (Text × Text)
  | [] => none
  | c :: cs =>
    if c = ':' then some ([], cs)
    else (splitColon cs).map fun (name, value) => (c :: name, value)

def hasBrace (cs : Text) : Bool := cs.any fun c => c = '{' || c = '}'

/-- The name and value that a piece between semicolons declares. -/
def declaration? (piece : Text) : Option (Text × Text) :=
  match splitColon piece with
  | none => none
  | some (name, value) =>
    let name := Text.trim name
    let value := Text.trim value
    if name = [] ∨ value = [] ∨ hasBrace name ∨ hasBrace value then none else some (name, value)

def declarations (body : Text) : Declarations :=
  ((Text.split (· = ';') body).filterMap declaration?).foldl
    (fun table (name, value) => table.insert name value) Table.empty

end Stylesheet

end ClassLens
