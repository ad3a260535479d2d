import ClassLens.Text.Basic
/-
  TOML — values of the format that configuration files are written in

  A table remembers what brought it into being, because that decides what may
  still be added to it: a table opened by a header is complete once the next
  header comes, one implied by a longer header may still be opened itself, one
  made by dotted keys may take more dotted keys, and one written between braces
  is closed for good.

  What this holds:
    1. `Toml` and `Origin`;
    2. `setDotted?`, `openTable?`, `openElement?` and `setIn?`, the ways in which
       the lines of a file add to the table of the whole file.
-/

namespace ClassLens

namespace Toml

/-- What brought a table into being. -/
inductive Origin where
  | header
  | implied
  | dotted
  | braces
  deriving Repr, DecidableEq

end Toml

/-- A TOML value. Numbers with a fraction and dates carry no value, as nothing asks for it. -/
inductive Toml where
  | str (value : Text)
  | int (value : Int)
  | float
  | bool (value : Bool)
  | date
  | array (items : List Toml)
  | table (origin : Toml.Origin) (fields : List (Text × Toml))
  | tables (elements : List (List (Text × Toml)))
  deriving Repr, Inhabited

namespace Toml

/-- The fields of a table, in order. -/
abbrev Fields := List (Text × Toml)

def lookup (key : Text) : Fields → Option Toml
  | [] => none
  | (k, v) :: rest => if k = key then some v else lookup key rest

/-- The fields with one of them written; a new one comes last. -/
def put (key : Text) (value : Toml) : Fields → Fields
  | [] => [(key, value)]
  | (k, v) :: rest => if k = key then (k, value) :: rest else (k, v) :: put key value rest

/-- The elements with the fields of the last one changed. -/
def inLast? (f : Fields → Option Fields) : List Fields → Option (List Fields)
  | [] => none
  | [fields] => (f fields).map ([·])
  | first :: rest => (inLast? f rest).map (first :: ·)

/-- Adds a value under a dotted key. Every table on the way has to be made by
headers that imply it or by dotted keys, and the last of them by dotted keys. -/
def setDotted? (key : Text) (value : Toml) : List Text → Fields → Option Fields
  | [], fields =>
    match lookup key fields with
    | some _ => none
    | none => some (fields ++ [(key, value)])
  | k :: path, fields =>
    match lookup k fields with
    | none => (setDotted? key value path []).map fun inner => fields ++ [(k, .table .dotted inner)]
    | some (.table origin inner) =>
      if origin = .header ∨ origin = .braces ∨ (path = [] ∧ origin ≠ .dotted) then none
      else (setDotted? key value path inner).map fun inner => put k (.table origin inner) fields
    | some (.tables elements) =>
      if path = [] then none
      else (inLast? (setDotted? key value path) elements).map fun elements =>
        put k (.tables elements) fields
    | some _ => none

/-- Opens the table of a header: it has to be new, or only implied so far. -/
def openHere? (key : Text) (fields : Fields) : Option Fields :=
  match lookup key fields with
  | none => some (fields ++ [(key, .table .header [])])
  | some (.table .implied inner) => some (put key (.table .header inner) fields)
  | some _ => none

/-- Adds an element to the array of tables of a header. -/
def openElementHere? (key : Text) (fields : Fields) : Option Fields :=
  match lookup key fields with
  | none => some (fields ++ [(key, .tables [[]])])
  | some (.tables elements) => some (put key (.tables (elements ++ [[]])) fields)
  | some _ => none

/-- Changes the fields of the table that the keys of a header lead to. Tables
missing on the way are implied; of an array of tables the last element counts. -/
def inHeader? (f : Fields → Option Fields) : List Text → Fields → Option Fields
  | [], fields => f fields
  | k :: path, fields =>
    match lookup k fields with
    | none => (inHeader? f path []).map fun inner => fields ++ [(k, .table .implied inner)]
    | some (.table origin inner) =>
      if origin = .braces then none
      else (inHeader? f path inner).map fun inner => put k (.table origin inner) fields
    | some (.tables elements) =>
      (inLast? (inHeader? f path) elements).map fun elements => put k (.tables elements) fields
    | some _ => none

def openTable? (path : List Text) (fields : Fields) : Option Fields :=
  match path.getLast? with
  | none => none
  | some key => inHeader? (openHere? key) path.dropLast fields

/-- Adds an element to the array of tables of a header. -/
def openElement? (path : List Text) (fields : Fields) : Option Fields :=
  match path.getLast? with
  | none => none
  | some key => inHeader? (openElementHere? key) path.dropLast fields

/-- Adds a value under a dotted key to the table that a header opened. -/
def setIn? (header : List Text) (path : List Text) (value : Toml) (fields : Fields) :
    Option Fields :=
  match path.getLast? with
  | none => none
  | some key => inHeader? (setDotted? key value path.dropLast) header fields

end Toml

end ClassLens
