import ClassLens.Engine.Basic
import ClassLens.Document.Attribute
import ClassLens.Component.Render
import ClassLens.Json.Basic
/-
  Completion — class names for the value under the cursor

  A list offers the classes of the component that begin with what is typed and
  do not stand elsewhere in the value. Its items carry a number each; the table
  of numbers knows the document and the class an item is about, so that its
  documentation can be made when it is asked for. The table knows the latest
  list only, and no number is ever given twice.
-/

namespace ClassLens

/-- What an item of the latest list is about. -/
structure PendingItem where
  component : Path
  name : Text
  deriving Repr

/-- The items of the latest list, by number. -/
structure ItemTable where
  nextId : Nat
  entries : Table Nat PendingItem
  deriving Repr

/-- An item of a completion list. What an editor adds to it goes along in `others`. -/
structure Item where
  label : Text
  /-- The range to replace, and the text to put there. -/
  edit : Option (Range × Text)
  data : Option Json
  documentation : Option Json
  others : List (Text × Json)
  deriving Repr

namespace ItemTable

def empty : ItemTable := ⟨0, Table.empty⟩

/-- The number of items of the latest list. -/
def size (t : ItemTable) : Nat := t.entries.size

/-- Forgets the latest list. -/
def clear (t : ItemTable) : ItemTable := { t with entries := Table.empty }

/-- Numbers are taken modulo this. -/
def idLimit : Nat := 0x10000000000000000

/-- The table with one more item, and the item's number. -/
def register (t : ItemTable) (p : PendingItem) : ItemTable × Nat :=
  (⟨(t.nextId + 1) % idLimit, t.entries.insert t.nextId p⟩, t.nextId)

/-- The table with several more items, and their numbers. -/
def registerAll : ItemTable → List PendingItem → ItemTable × List Nat
  | t, [] => (t, [])
  | t, p :: rest =>
    let (t, id) := t.register p
    let (t, ids) := registerAll t rest
    (t, id :: ids)

/-- The table with a new list in place of the latest one, and the numbers of its items. -/
def replace (t : ItemTable) (items : List PendingItem) : ItemTable × List Nat :=
  t.clear.registerAll items

end ItemTable

/-- The kind of a completion item: a value. -/
def itemKind : Nat := 12

/-- The classes to offer around a cursor. -/
def candidates (c : Component) (cursor : Cursor) : List Text :=
  c.classNames.filter fun name =>
    !cursor.existing.contains name && Text.startsWith cursor.typed name

/-- The items to offer at a place, or `none` outside all values of the attribute. -/
def complete (disk : Disk) (e : Engine) (t : ItemTable) (doc : Document) (p : Position)
    (attr : Text) : Engine × ItemTable × Except Fault (Option (List Item)) :=
  match doc.row? p.line with
  | none => (e, t, .ok none)
  | some (start, line) =>
    match cursorAt attr line (Document.byteColumn p.character line) with
    | .error fault => (e, t, .error fault)
    | .ok none => (e, t, .ok none)
    | .ok (some cursor) =>
      match e.ensureDocument disk doc with
      | (e, none) => (e, t, .ok none)
      | (e, some c) =>
        match doc.rangeOf (start + cursor.replaceStart) (start + cursor.replaceStop) with
        | .error fault => (e, t, .error fault)
        | .ok range =>
          let names := candidates c cursor
          let (t, ids) := t.replace (names.map fun name => ⟨doc.path, name⟩)
          let items := (names.zip ids).map fun (name, id) =>
            { label := name, edit := some (range, name), data := some (.ofNat id)
              documentation := none, others := [("kind".toList, .ofNat itemKind)] }
          (e, t, .ok (some items))

def markdownJson (text : Text) : Json :=
  Json.ofFields [("kind", Json.ofString "markdown"), ("value", .str text)]

/-- The documentation of an item of the latest list, if its class is still defined. -/
def documentation? (e : Engine) (t : ItemTable) (item : Item) : Option Text := do
  let id ← (← item.data).nat?
  let pending ← t.entries.get? id
  let c ← e.component? pending.component
  let found := c.occurrences pending.name
  if found.isEmpty then none else some (c.markdown found)

/-- The item with its documentation, if it has any, and as it is otherwise. -/
def resolve (e : Engine) (t : ItemTable) (item : Item) : Item :=
  match documentation? e t item with
  | some text => { item with documentation := some (markdownJson text) }
  | none => item

end ClassLens
