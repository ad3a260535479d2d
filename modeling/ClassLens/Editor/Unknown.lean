import ClassLens.Engine.Basic
import ClassLens.Document.Attribute
/-
  Unknown classes — class names that no imported stylesheet defines

  Every closed value of the attribute in a document is looked through. A
  document without class names is not indexed at all.
-/

namespace ClassLens

/-- The use of a class name, between two byte offsets of a document. -/
structure Usage where
  name : Text
  start : Nat
  stop : Nat
  deriving Repr, DecidableEq

/-- The class names in the closed values on a line that starts at a byte offset. -/
def usagesOnLine (attr : Text) (start : Nat) (line : Text) : List Usage :=
  ((attributeValues attr line).filter (·.closed)).flatMap fun v =>
    (classTokens v.text).map fun (offset, token) =>
      let first := start + v.start + offset
      ⟨token, first, first + Text.bytes token⟩

/-- The class names that a document uses, in order. -/
def usages (doc : Document) (attr : Text) : List Usage :=
  doc.rows.flatMap fun (start, line) => usagesOnLine attr start (Document.dropReturns line)

/-- The uses of class names that no imported stylesheet defines. -/
def unknownClasses (disk : Disk) (e : Engine) (doc : Document) (attr : Text) :
    Engine × List Usage :=
  let used := usages doc attr
  if used.isEmpty then (e, [])
  else
    match e.ensureDocument disk doc with
    | (e, none) => (e, [])
    | (e, some c) => (e, used.filter fun u => !c.hasClass u.name)

/-- A report of an unknown class. -/
structure Diagnostic where
  name : Text
  range : Range
  deriving Repr

def Diagnostic.message (d : Diagnostic) : Text :=
  "Class '".toList ++ d.name ++ "' not found in imported CSS files".toList

def diagnose (disk : Disk) (e : Engine) (doc : Document) (attr : Text) :
    Engine × Except Fault (List Diagnostic) :=
  let (e, unknown) := unknownClasses disk e doc attr
  (e, unknown.mapM fun u => do return ⟨u.name, ← doc.rangeOf u.start u.stop⟩)

end ClassLens
