import ClassLens.Json.Basic
import ClassLens.Uri.Basic
/-
  Shapes — what data has to look like

  A shape accepts some data and brings it into a normal form: fields that mean
  nothing are dropped, so are fields that may be null and are, and URIs are
  written in their normal form. A record of fixed fields may also be written as
  the list of their values in order, unless its fields come from several
  records at once.

  What this holds:
    1. `Presence` and `Shape`;
    2. `normalize?`, the normal form of data of a shape;
    3. short forms for fields and records.
-/

namespace ClassLens

/-- Whether a field has to be there. -/
inductive Presence where
  | required
  /-- May be missing or null, but not missing at the end of a list. -/
  | nullable
  /-- May be missing or null. -/
  | elidable
  /-- May be missing, but not null. -/
  | filled
  deriving Repr, DecidableEq

def Presence.allowsNull : Presence → Bool
  | .nullable | .elidable => true
  | .required | .filled => false

/-- Whether an object may come without a field. -/
def Presence.isOptional : Presence → Bool
  | .required => false
  | .nullable | .elidable | .filled => true

/-- Whether a list may end before a field. -/
def Presence.endsList : Presence → Bool
  | .elidable | .filled => true
  | .required | .nullable => false

/-- What data has to look like. -/
inductive Shape where
  | any
  | text
  | bool
  | int (low high : Int)
  | number
  | uri
  /-- One text and no other. -/
  | exactly (value : Text)
  /-- One of some words, or an object that has null under it. -/
  | word (words : List Text)
  | list (item : Shape)
  | tuple (items : List Shape)
  /-- An object that has data of one shape under keys of another. -/
  | mapping (key value : Shape)
  /-- Fixed fields; `asList` says whether they may be written as a list. -/
  | record (asList : Bool) (fields : List (Text × Presence × Shape))
  /-- Fixed fields, and others of one shape. -/
  | openRecord (fields : List (Text × Presence × Shape)) (others : Shape)
  /-- The first of two alternatives that fits. -/
  | either (first second : Shape)

namespace Shape

mutual

/-- The normal form of data of a shape. -/
def normalize? : Shape → Json → Option Json
  | .any, v => some v
  | .text, v => match v with
    | .str s => some (.str s)
    | _ => none
  | .bool, v => match v with
    | .bool b => some (.bool b)
    | _ => none
  | .int low high, v => match v with
    | .int n => if low ≤ n ∧ n ≤ high then some (.int n) else none
    | _ => none
  | .number, v => match v with
    | .int n => some (.int n)
    | .real written => some (.real written)
    | _ => none
  | .uri, v => match v with
    | .str s => (Uri.ofText? s).map fun u => .str u.toText
    | _ => none
  | .exactly value, v => match v with
    | .str s => if s = value then some (.str s) else none
    | _ => none
  | .word words, v => match v with
    | .str s => if words.contains s then some (.str s) else none
    | .obj [(s, .null)] => if words.contains s then some (.str s) else none
    | _ => none
  | .list item, v => match v with
    | .arr xs => (xs.mapM (normalize? item)).map .arr
    | _ => none
  | .tuple items, v => match v with
    | .arr xs => (items? items xs).map .arr
    | _ => none
  | .mapping key value, v => match v with
    | .obj fs => (fs.mapM fun (k, w) => do
        match ← normalize? key (.str k) with
        | .str k => return (k, ← normalize? value w)
        | _ => none).map .obj
    | _ => none
  | .record asList fields, v => match v with
    | .obj fs => (fields? fields fs).map .obj
    | .arr xs => if asList then (positions? fields xs).map .obj else none
    | _ => none
  | .openRecord fields others, v => match v with
    | .obj fs => do
      let known ← fields? fields fs
      let left := fs.filter fun (k, _) => !fields.any (·.1 = k)
      let more ← left.mapM fun (k, w) => do return (k, ← normalize? others w)
      return .obj (known ++ more)
    | _ => none
  | .either first second, v =>
    match normalize? first v with
    | some w => some w
    | none => normalize? second v

def items? : List Shape → List Json → Option (List Json)
  | [], [] => some []
  | shape :: shapes, v :: vs => do return (← normalize? shape v) :: (← items? shapes vs)
  | [], _ :: _ => none
  | _ :: _, [] => none

def fields? : List (Text × Presence × Shape) → List (Text × Json) → Option (List (Text × Json))
  | [], _ => some []
  | (name, presence, shape) :: rest, fs => do
    let later ← fields? rest fs
    match Json.lookup name fs with
    | none => if presence.isOptional then return later else none
    | some v =>
      if v.isNull && presence.allowsNull then return later
      else return (name, ← normalize? shape v) :: later

/-- The fields of a record that is written as a list. -/
def positions? : List (Text × Presence × Shape) → List Json → Option (List (Text × Json))
  | [], [] => some []
  | [], _ :: _ => none
  | (_, presence, _) :: rest, [] => if presence.endsList then positions? rest [] else none
  | (name, presence, shape) :: rest, v :: vs => do
    let later ← positions? rest vs
    if v.isNull && presence.allowsNull then return later
    else return (name, ← normalize? shape v) :: later

end

/-! ## Short forms -/

/-- Integers of 32 bits without a sign. -/
def unsigned32 : Shape := .int 0 0xFFFFFFFF

/-- Integers of 32 bits with a sign. -/
def signed32 : Shape := .int (-0x80000000) 0x7FFFFFFF

def needed (name : String) (shape : Shape) : Text × Presence × Shape :=
  (name.toList, .required, shape)

/-- A field that may be missing or null. -/
def maybe (name : String) (shape : Shape) : Text × Presence × Shape :=
  (name.toList, .nullable, shape)

/-- A field that may be missing or null, also at the end of a list. -/
def droppable (name : String) (shape : Shape) : Text × Presence × Shape :=
  (name.toList, .elidable, shape)

/-- A field that may be missing, but not null. -/
def preset (name : String) (shape : Shape) : Text × Presence × Shape :=
  (name.toList, .filled, shape)

/-- A record that may be written as a list. -/
def plain (fields : List (Text × Presence × Shape)) : Shape := .record true fields

/-- A record of fields that come from several records. -/
def mixed (fields : List (Text × Presence × Shape)) : Shape := .record false fields

/-- A record of truth values that may all be missing. -/
def flags (names : List String) : Shape := plain (names.map fun n => maybe n .bool)

def oneOf (words : List String) : Shape := .word (words.map String.toList)

end Shape

end ClassLens
