import ClassLens.Text.Utf8
/-
  Paths — the spelling of a path and the segments it names

  A path is a list of bytes, which need not be a text, and keeps the spelling
  it came with. Two paths are the same when they name the same segments:
  repeated slashes, a slash at the end and a dot inside make no difference,
  while a leading dot and every parent step do. Tables keyed by paths therefore
  hold one entry for all spellings of a path.

  What this holds:
    1. `Segment` and `Path`, with equality and order by segments;
    2. `ofText` and `display`, paths as texts;
    3. `join`, `parent?`, `extension?` and `absoluteIn`.
-/

namespace ClassLens

/-- One step of a path. -/
inductive Segment where
  | root
  | here
  | up
  | name (bytes : Bytes)
  deriving DecidableEq, Repr

/-- A path, as spelled. -/
structure Path where
  spelling : Bytes
  deriving Repr, Inhabited

namespace Path

def ofText (cs : Text) : Path := ⟨Utf8.encode cs⟩

/-- A path as it is shown; what is no character in it is shown as a mark. -/
def display (p : Path) : Text := Utf8.lossy p.spelling

/-- The byte between two segments. -/
def slash : UInt8 := 0x2F

/-- The byte that stands for the directory it is in, and twice for the one above. -/
def dot : UInt8 := 0x2E

/-- The stretches between the slashes of a path. -/
def pieces (p : Path) : List Bytes := Text.split (· = slash) p.spelling

/-- What a piece names behind the start of a path: an empty piece and a dot name nothing. -/
def innerSegment? (piece : Bytes) : Option Segment :=
  if piece = [] ∨ piece = [dot] then none
  else if piece = [dot, dot] then some .up
  else some (.name piece)

/-- Whether the path starts at the root. -/
def isAbsolute (p : Path) : Bool := p.spelling.head? == some slash

/-- The segments a path names. -/
def segments (p : Path) : List Segment :=
  if p.isAbsolute then .root :: p.pieces.filterMap innerSegment?
  else match p.pieces with
    | first :: rest =>
      if first = [dot] then .here :: rest.filterMap innerSegment?
      else (first :: rest).filterMap innerSegment?
    | [] => []

/-- Paths are equal when they name the same segments. -/
instance : BEq Path := ⟨fun p q => p.segments == q.segments⟩

theorem beq_iff (p q : Path) : (p == q) = true ↔ p.segments = q.segments := by
  change (p.segments == q.segments) = true ↔ _
  exact beq_iff_eq

instance : EquivBEq Path where
  rfl := by intro p; exact (beq_iff p p).2 rfl
  symm := by intro p q h; exact (beq_iff q p).2 ((beq_iff p q).1 h).symm
  trans := by
    intro p q r h₁ h₂
    exact (beq_iff p r).2 (((beq_iff p q).1 h₁).trans ((beq_iff q r).1 h₂))

/-- The rank of a segment's kind: the root first, then dots, parent steps and names. -/
def rank : Segment → Nat
  | .root => 0
  | .here => 1
  | .up => 2
  | .name _ => 3

/-- Whether one segment comes no later than another; names go by their bytes. -/
def segmentLe : Segment → Segment → Bool
  | .name a, .name b => Utf8.le a b
  | a, b => rank a ≤ rank b

def segmentsLe : List Segment → List Segment → Bool
  | [], _ => true
  | _ :: _, [] => false
  | a :: as, b :: bs => if a = b then segmentsLe as bs else segmentLe a b

/-- Whether `p` comes no later than `q`, segment by segment. -/
def le (p q : Path) : Bool := segmentsLe p.segments q.segments

def segmentBytes : Segment → Bytes
  | .root => [slash]
  | .here => [dot]
  | .up => [dot, dot]
  | .name n => n

/-- The plainest path that names the given segments. -/
def ofSegments : List Segment → Path
  | .root :: rest => ⟨slash :: Text.join [slash] (rest.map segmentBytes)⟩
  | segs => ⟨Text.join [slash] (segs.map segmentBytes)⟩

/-- The path `q` seen from `p`: an absolute `q` replaces `p`. -/
def join (p : Path) (q : Bytes) : Path :=
  if q.head? == some slash then ⟨q⟩
  else if p.spelling = [] ∨ p.spelling.getLast? = some slash then ⟨p.spelling ++ q⟩
  else ⟨p.spelling ++ slash :: q⟩

/-- The path that a text names seen from `p`. -/
def joinText (p : Path) (q : Text) : Path := p.join (Utf8.encode q)

/-- The path without its last segment; the root and the empty path have none to lose. -/
def parent? (p : Path) : Option Path :=
  match p.segments.getLast? with
  | none => none
  | some .root => none
  | some _ => some (ofSegments p.segments.dropLast)

/-- The last segment, if it is a name. -/
def fileName? (p : Path) : Option Bytes :=
  match p.segments.getLast? with
  | some (.name n) => some n
  | _ => none

/-- What follows the last dot of a file name. A dot at its very start begins no extension. -/
def nameExtension? (n : Bytes) : Option Bytes :=
  let ext := (n.reverse.takeWhile (· ≠ dot)).reverse
  let stemAndDot := n.length - ext.length
  if stemAndDot ≤ 1 then none else some ext

/-- The extension of the file a path names, if it has one and that is a text. -/
def extension? (p : Path) : Option Text := (p.fileName?.bind nameExtension?).bind Utf8.decode?

/-- The path with one more slash in front. -/
def double (p : Path) : Path := ⟨slash :: p.spelling⟩

/-- Whether the path starts with exactly two slashes, which a system may take for more than one. -/
def startsDouble (p : Path) : Bool :=
  match p.spelling with
  | a :: b :: rest => a == slash && b == slash && rest.head? != some slash
  | _ => false

/-- The absolute form of a path seen from the directory `cwd`: spare slashes and
dots go, parent steps stay. -/
def plainIn (cwd : Path) (p : Path) : Path :=
  let segs := match p.segments with
    | .here :: rest => rest
    | segs => segs
  let whole := if p.isAbsolute then ofSegments segs
    else segs.foldl (fun q s => q.join (segmentBytes s)) cwd
  if p.spelling.getLast? == some slash then whole.join [] else whole

/-- The absolute form of a path, with the second slash if it starts with two. -/
def absoluteIn (cwd : Path) (p : Path) : Path :=
  if p.startsDouble then (plainIn cwd p).double else plainIn cwd p

end Path

end ClassLens
