import ClassLens.Path.Basic
import ClassLens.Uri.Basic
/-
  Files and their URIs

  A URI names a file of this machine when its path has segments and its host is
  this machine or missing, whatever the scheme. The path of the file is what
  the segments stand for, byte by byte.
-/

namespace ClassLens

namespace Uri

/-- The URI of the file at an absolute path. -/
def ofPath? (p : Path) : Option Uri :=
  if p.isAbsolute then
    let names := p.segments.tail.map fun s =>
      Percent.encodeBytes Percent.inSegment (Path.segmentBytes s)
    some ⟨fileScheme, some .missing, pathOf names, false, none, none⟩
  else none

/-- Whether the host of a URI is this machine, or missing. -/
def isLocal (u : Uri) : Bool :=
  match u.authority with
  | none => true
  | some a => a.host = .missing || a.host = .localhost

/-- Whether a path ends in the name of a drive, so that a slash has to follow it. -/
def endsInDrive (bytes : Bytes) : Bool :=
  let last := bytes.drop (bytes.length - 2)
  bytes.length > 2 && isDrive (last.map fun b => Char.ofNat b.toNat)

/-- The path of the file that a URI names. -/
def toPath? (u : Uri) : Option Path :=
  match u.path with
  | '/' :: rest =>
    if u.isOpaque || !u.isLocal then none
    else
      let bytes := (Text.split (· = '/') rest).flatMap fun s => Path.slash :: Percent.decode s
      some ⟨if endsInDrive bytes then bytes ++ [Path.slash] else bytes⟩
  | _ => none

end Uri

end ClassLens
