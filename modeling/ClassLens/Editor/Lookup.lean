import ClassLens.Engine.Basic
import ClassLens.Document.Attribute
import ClassLens.Component.Render
import ClassLens.Uri.File
/-
  Looking up — what an editor shows for the class under the cursor

  The class under the cursor is the run of class name characters it touches,
  inside a value of the attribute. Hovering shows all its definitions; going to
  the definition leads to the winning one. Both index the document first if
  need be.
-/

namespace ClassLens

/-- What an editor shows while hovering. -/
structure Hover where
  markdown : Text
  range : Range
  deriving Repr

/-- A place in a file. -/
structure Destination where
  uri : Uri
  range : Range
  deriving Repr

/-- The class at a place, with the byte offsets around it. -/
def classAt? (doc : Document) (p : Position) (attr : Text) : Option (Text × Nat × Nat) := do
  let (start, line) ← doc.row? p.line
  let column := Document.byteColumn p.character line
  let _ ← attributeValueAt? attr line column
  let (a, b) ← doc.wordAt? p
  let name ← Text.slice? (a - start) (b - start) line
  return (name, a, b)

/-- What hovering over a place shows. -/
def hover (disk : Disk) (e : Engine) (doc : Document) (p : Position) (attr : Text) :
    Engine × Except Fault (Option Hover) :=
  match classAt? doc p attr with
  | none => (e, .ok none)
  | some (name, start, stop) =>
    match e.ensureDocument disk doc with
    | (e, none) => (e, .ok none)
    | (e, some c) =>
      let found := c.occurrences name
      if found.isEmpty then (e, .ok none)
      else (e, do return some ⟨c.markdown found, ← doc.rangeOf start stop⟩)

def destinationOf (c : Component) (d : Definition) : Except Fault (Option Destination) :=
  match Uri.ofPath? d.file with
  | none => .ok none
  | some uri => do
    let column ← match c.sheet? d.file with
      | some s => s.columnOf d
      | none => .ok 0
    let place : Position := ⟨d.line - 1, column⟩
    return some ⟨uri, place, place⟩

/-- Where the class at a place is defined. -/
def goToDefinition (disk : Disk) (e : Engine) (doc : Document) (p : Position) (attr : Text) :
    Engine × Except Fault (Option Destination) :=
  match classAt? doc p attr with
  | none => (e, .ok none)
  | some (name, _, _) =>
    match e.ensureDocument disk doc with
    | (e, none) => (e, .ok none)
    | (e, some c) =>
      match c.definition? name with
      | none => (e, .ok none)
      | some d => (e, destinationOf c d)

end ClassLens
