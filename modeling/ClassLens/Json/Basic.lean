import ClassLens.Text.Basic
/-
  JSON — values of the data format that editors and options are written in

  A number without fraction and exponent that fits into 64 bits, with or
  without a sign, is an integer; every other number keeps the text it was
  written as. An object holds each key once.
-/

namespace ClassLens

/-- A JSON value. -/
inductive Json where
  | null
  | bool (value : Bool)
  | int (value : Int)
  | real (written : Text)
  | str (value : Text)
  | arr (items : List Json)
  | obj (fields : List (Text × Json))
  deriving Repr, Inhabited

namespace Json

/-- The fields with one more; a key already present keeps its place and takes the new value. -/
def setField (fields : List (Text × Json)) (key : Text) (value : Json) : List (Text × Json) :=
  match fields with
  | [] => [(key, value)]
  | (k, v) :: rest => if k = key then (k, value) :: rest else (k, v) :: setField rest key value

/-- The value of a field in a list of fields. -/
def lookup (key : Text) : List (Text × Json) → Option Json
  | [] => none
  | (k, v) :: rest => if k = key then some v else lookup key rest

/-- The value of a field of an object. -/
def field? (key : String) : Json → Option Json
  | .obj fields => lookup key.toList fields
  | _ => none

def text? : Json → Option Text
  | .str s => some s
  | _ => none

/-- An integer, if the value is one. -/
def int? : Json → Option Int
  | .int n => some n
  | _ => none

/-- An integer that is not negative, if the value is one. -/
def nat? : Json → Option Nat
  | .int n => if n < 0 then none else some n.toNat
  | _ => none

/-- A truth value, if the value is one. -/
def bool? : Json → Option Bool
  | .bool b => some b
  | _ => none

/-- The items, if the value is an array. -/
def items? : Json → Option (List Json)
  | .arr xs => some xs
  | _ => none

def isNull : Json → Bool
  | .null => true
  | _ => false

/-- An object from its fields in order. -/
def ofFields (fields : List (String × Json)) : Json :=
  .obj (fields.map fun (k, v) => (k.toList, v))

def ofString (s : String) : Json := .str s.toList

/-- A number value from a natural number. -/
def ofNat (n : Nat) : Json := .int n

/-- The value inside, or null. -/
def ofOption : Option Json → Json
  | some v => v
  | none => .null

end Json

end ClassLens
