import ClassLens.Path.Basic
/-
  Normal paths — folding dots and parent steps away

  Normalisation looks at the spelling only, never at files. A dot names
  nothing; a parent step takes back the name before it, and does nothing at the
  root or at the start of a relative path.
-/

namespace ClassLens

namespace Path

/-- The stack, innermost segment first, after taking back one name. -/
def popName : List Segment → List Segment
  | .name _ :: rest => rest
  | stack => stack

/-- The stack, innermost segment first, after one more segment. -/
def fold (stack : List Segment) : Segment → List Segment
  | .here => stack
  | .up => popName stack
  | s => s :: stack

/-- The segments that remain once dots and parent steps are folded away. -/
def normalSegments (segs : List Segment) : List Segment := (segs.foldl fold []).reverse

/-- The path with dots and parent steps folded away. -/
def normalize (p : Path) : Path := ofSegments (normalSegments p.segments)

end Path

end ClassLens
