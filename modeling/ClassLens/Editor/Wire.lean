import ClassLens.Config
import ClassLens.Editor.Completion
import ClassLens.Editor.Lookup
import ClassLens.Editor.Unknown
/-
  On the wire — answers as the data that editors read
-/

namespace ClassLens

/-- What reports say they come from. -/
def diagnosticSource : String := "stylename"

def Position.toJson (p : Position) : Json :=
  Json.ofFields [("line", .ofNat p.line), ("character", .ofNat p.character)]

def Range.toJson (r : Range) : Json :=
  Json.ofFields [("start", r.start.toJson), ("end", r.stop.toJson)]

def Hover.toJson (h : Hover) : Json :=
  Json.ofFields [("contents", markdownJson h.markdown), ("range", h.range.toJson)]

/-- A place in a file as data. -/
def Destination.toJson (d : Destination) : Json :=
  Json.ofFields [("uri", .str d.uri.toText), ("range", d.range.toJson)]

/-- A report of the given severity as data. -/
def Diagnostic.toJson (severity : Severity) (d : Diagnostic) : Json :=
  Json.ofFields [("range", d.range.toJson), ("severity", .ofNat severity.code),
    ("source", .ofString diagnosticSource), ("message", .str d.message)]

def Item.toJson (i : Item) : Json :=
  let field := fun (name : String) (v : Option Json) => (v.map fun v => (name.toList, v)).toList
  let edit := i.edit.map fun (range, text) =>
    Json.ofFields [("range", range.toJson), ("newText", .str text)]
  .obj (("label".toList, .str i.label) :: field "textEdit" edit ++ field "data" i.data ++
    field "documentation" i.documentation ++ i.others)

/-- A completion item from its data: what is not looked at here goes along as it is. -/
def Item.ofJson? : Json → Option Item
  | .obj fields => do
    let label ← (← Json.lookup "label".toList fields).text?
    let known := ["label", "data", "documentation"].map String.toList
    return {
      label, edit := none
      data := Json.lookup "data".toList fields
      documentation := Json.lookup "documentation".toList fields
      others := fields.filter fun (k, _) => !known.contains k }
  | _ => none

end ClassLens
