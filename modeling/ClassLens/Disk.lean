import ClassLens.Table
import ClassLens.Path.Basic
/-
  The disk — files and directories as a value

  A disk maps locations, the names on the way from the root, to files and
  directories. Looking a path up walks its pieces one by one as the operating
  system does: a parent step goes to the directory above, and every piece needs
  a directory to stand in, so a path below a file fails.

  Files bear the time they were given. A directory bears the number of the
  change that last gave it an entry or took one from it.

  What this holds:
    1. `Content`, `Stamp`, `Node`, `Disk` and the causes of failure, `DiskError`;
    2. `find`, `isFile`, `stamp?` and `read`, which only look;
    3. `write`, `makeDirectory` and `remove`, which change the disk;
    4. `filesBelow`, all files under a directory.
-/

namespace ClassLens

/-- What a file holds: a text, or bytes that are no text. -/
inductive Content where
  | text (chars : Text)
  | binary
  deriving Repr, DecidableEq

/-- The content that a file's bytes spell out. -/
def Content.ofBytes (bytes : ByteArray) : Content :=
  match String.fromUTF8? bytes with
  | some s => .text s.toList
  | none => .binary

/-- When something was last modified. -/
inductive Stamp where
  /-- The time of a file. -/
  | time (moment : Int)
  /-- The change of a directory. -/
  | change (number : Nat)
  /-- A moment that nothing on the disk bears. -/
  | unborne
  deriving Repr, DecidableEq

/-- A file or a directory. -/
inductive Node where
  | file (content : Content) (modified : Int)
  | directory (changed : Nat)
  deriving Repr, DecidableEq

/-- Why a path could not be looked up or read. -/
inductive DiskError where
  | notFound
  | notDirectory
  | isDirectory
  | nameTooLong
  | nullByte
  | notText
  deriving Repr, DecidableEq

def DiskError.message : DiskError → Text
  | .notFound => "No such file or directory (os error 2)".toList
  | .notDirectory => "Not a directory (os error 20)".toList
  | .isDirectory => "Is a directory (os error 21)".toList
  | .nameTooLong => "File name too long (os error 36)".toList
  | .nullByte => "file name contained an unexpected NUL byte".toList
  | .notText => "stream did not contain valid UTF-8".toList

/-- Where a node is: the names on the way from the root. -/
abbrev Location := List Bytes

/-- The files and directories, and the directory relative paths start from. -/
structure Disk where
  nodes : Table Location Node
  cwd : Path
  /-- How often a directory got or lost an entry. -/
  changes : Nat

namespace Disk

/-- The disk that holds the root directory only. -/
def empty : Disk := ⟨Table.empty.insert [] (.directory 0), ⟨[Path.slash]⟩, 0⟩

def node? (d : Disk) (place : Location) : Option Node := d.nodes.get? place

/-- The longest name a directory can hold, in bytes. -/
def maxNameBytes : Nat := 255

/-- The longest path that can be looked up, in bytes. -/
def maxPathBytes : Nat := 4095

/-- Walks on from a location over the pieces of a path. -/
def walk (d : Disk) : Location → List Bytes → Except DiskError Location
  | place, [] => .ok place
  | place, piece :: rest =>
    match d.node? place with
    | none => .error .notFound
    | some (.file _ _) => .error .notDirectory
    | some (.directory _) =>
      if piece = [] ∨ piece = [Path.dot] then walk d place rest
      else if piece = [Path.dot, Path.dot] then walk d place.dropLast rest
      else if piece.length > maxNameBytes then .error .nameTooLong
      else match d.node? (place ++ [piece]) with
        | none => .error .notFound
        | some _ => walk d (place ++ [piece]) rest

def find (d : Disk) (p : Path) : Except DiskError (Location × Node) := do
  if p.spelling.contains 0 then throw .nullByte
  if p.spelling = [] then throw .notFound
  if p.spelling.length > maxPathBytes then throw .nameTooLong
  let whole := if p.isAbsolute then p else d.cwd.join p.spelling
  let place ← d.walk [] whole.pieces
  match d.node? place with
  | some n => return (place, n)
  | none => throw .notFound

def isFile (d : Disk) (p : Path) : Bool :=
  match d.find p with
  | .ok (_, .file _ _) => true
  | _ => false

def exists? (d : Disk) (p : Path) : Bool :=
  match d.find p with
  | .ok _ => true
  | .error _ => false

/-- When what a path leads to was last modified. -/
def stamp (d : Disk) (p : Path) : Except DiskError Stamp := do
  match ← d.find p with
  | (_, .file _ modified) => return .time modified
  | (_, .directory changed) => return .change changed

/-- The text of the file a path leads to. -/
def read (d : Disk) (p : Path) : Except DiskError Text := do
  match ← d.find p with
  | (_, .file (.text cs) _) => return cs
  | (_, .file .binary _) => throw .notText
  | (_, .directory _) => throw .isDirectory

/-! ## Changing the disk -/

/-- The location after one more segment. -/
def follow (place : Location) : Segment → Location
  | .name n => place ++ [n]
  | .up => place.dropLast
  | .root => place
  | .here => place

/-- The location that a path spells out. -/
def location (p : Path) : Location := p.segments.foldl follow []

/-- The locations a list of segments leads through, the last one left out. -/
def waypoints (place : Location) : List Segment → List Location
  | [] => []
  | s :: rest => place :: waypoints (follow place s) rest

/-- Counts a change of the entries of the directory at a location. -/
def touch (d : Disk) (place : Location) : Disk :=
  { d with changes := d.changes + 1, nodes := d.nodes.insert place (.directory (d.changes + 1)) }

/-- Puts a node at a location; where there was none before, its directory has changed. -/
def putAt (d : Disk) (spot : Location) (n : Node) : Disk :=
  let d := if d.nodes.contains spot then d else d.touch spot.dropLast
  { d with nodes := d.nodes.insert spot n }

/-- Makes a directory at a location that has nothing yet. -/
def addDirectory (d : Disk) (spot : Location) : Disk :=
  if d.nodes.contains spot then d else d.putAt spot (.directory (d.changes + 1))

/-- Makes the directories on the way to what a path names. -/
def addParents (d : Disk) (p : Path) : Disk := (waypoints [] p.segments).foldl addDirectory d

/-- Writes a file, with directories on the way to it. -/
def write (d : Disk) (p : Path) (content : Content) (modified : Int) : Disk :=
  (d.addParents p).putAt (location p) (.file content modified)

/-- Makes a directory, with directories on the way to it. -/
def makeDirectory (d : Disk) (p : Path) : Disk := (d.addParents p).addDirectory (location p)

/-- Removes a file or a directory with all it holds. The root stays. -/
def remove (d : Disk) (p : Path) : Disk :=
  let gone := location p
  if gone = [] ∨ !d.nodes.contains gone then d
  else
    let left := d.nodes.entries.filter fun e => !gone.isPrefixOf e.1
    touch { d with nodes := ⟨left⟩ } gone.dropLast

/-! ## Looking through a directory -/

/-- The files below the place `p` leads to, each spelled as `p` followed by the names from there. -/
def filesBelow (d : Disk) (p : Path) : List Path :=
  match d.find p with
  | .ok (place, .directory _) =>
    d.nodes.entries.filterMap fun (l, n) =>
      match n with
      | .directory _ => none
      | .file _ _ =>
        if place.isPrefixOf l then some ((l.drop place.length).foldl Path.join p) else none
  | _ => []

end Disk

end ClassLens
