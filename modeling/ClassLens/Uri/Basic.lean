import ClassLens.Uri.Host
/-
  URIs — names of documents

  A URI is parsed once into its parts, in normal form: the scheme in lower
  case, dot segments folded away, a number behind the host only where it is not
  the usual one, and characters that must not stand there as they are
  percent-encoded. Two URIs are the same when their normal forms are.

  Some schemes always have an authority and take a backslash for a slash. Of
  these, `file` goes its own ways: its authority is the host alone, and the name
  of a drive, a letter and a colon or a bar, can stand in place of it.

  What this holds:
    1. `Uri` and `Authority`, with `toText`, the normal form;
    2. `Segments`, the folding of dot segments;
    3. `ofText?`, the parser.
-/

namespace ClassLens

/-- Who is asked for a document: a user, a host and a number. -/
structure Authority where
  /-- User and password as written, with the sign that ends them. -/
  user : Text
  host : Host
  number : Option Nat
  deriving Repr, DecidableEq

/-- A URI in normal form. -/
structure Uri where
  scheme : Text
  authority : Option Authority
  /-- The path as written in normal form. -/
  path : Text
  /-- Whether the path is a mere text, without segments. -/
  isOpaque : Bool
  query : Option Text
  fragment : Option Text
  deriving Repr, DecidableEq

def Authority.toText (a : Authority) : Text :=
  a.user ++ a.host.toText ++ (match a.number with
    | some n => ':' :: Text.ofNat n
    | none => [])

def Authority.missing : Authority := ⟨[], .missing, none⟩

namespace Uri

/-- The normal form of a URI. Without an authority, a path that starts with two
slashes gets a dot segment before them. -/
def toText (u : Uri) : Text :=
  u.scheme ++ [':'] ++
    (match u.authority with
      | some a => '/' :: '/' :: a.toText
      | none => if Text.startsWith ['/', '/'] u.path then ['/', '.'] else []) ++
    u.path ++
    (match u.query with
      | some q => '?' :: q
      | none => []) ++
    (match u.fragment with
      | some f => '#' :: f
      | none => [])

/-! ## Schemes -/

/-- The schemes whose URIs always have an authority, with the number that is usual behind a host. -/
def specialSchemes : List (String × Option Nat) :=
  [("http", some 80), ("https", some 443), ("ws", some 80), ("wss", some 443), ("ftp", some 21),
   ("file", none)]

/-- Whether the scheme is one of those whose URIs always have an authority. -/
def isSpecial (scheme : Text) : Bool := specialSchemes.any (·.1.toList = scheme)

/-- The number that is usual behind a host. -/
def usualNumber? (scheme : Text) : Option Nat :=
  (specialSchemes.find? (·.1.toList = scheme)).bind (·.2)

def fileScheme : Text := "file".toList

/-- Whether a character parts segments. -/
def isSlash (special : Bool) (c : Char) : Bool := c = '/' || (special && c = '\\')

def isPathEnd (c : Char) : Bool := c = '?' || c = '#'

/-- Splits a text before the first character that `p` holds of. -/
def splitBefore (p : Char → Bool) (cs : Text) : Text × Text :=
  let before := cs.takeWhile (!p ·)
  (before, cs.drop before.length)

/-- A text without controls and spaces at its ends, and without tabs and line breaks anywhere. -/
def clean (cs : Text) : Text :=
  let isEdge : Char → Bool := fun c => c.toNat ≤ 0x20
  let trimmed := ((cs.dropWhile isEdge).reverse.dropWhile isEdge).reverse
  trimmed.filter fun c => c ≠ '\t' && c ≠ '\n' && c ≠ '\r'

/-- The scheme in lower case, and the text behind its colon. -/
def scheme? (cs : Text) : Option (Text × Text) :=
  match cs with
  | [] => none
  | c :: _ =>
    let s := cs.takeWhile fun c => c.isAlphanum || c = '+' || c = '-' || c = '.'
    match cs.drop s.length with
    | ':' :: rest => if c.isAlpha then some (s.map Char.toLower, rest) else none
    | _ => none

/-! ## Segments -/

/-- Whether a segment stands for the directory it is in. -/
def isSingleDot (s : Text) : Bool := [".", "%2e"].any (·.toList = s.map Char.toLower)

/-- Whether a segment stands for the directory above. -/
def isDoubleDot (s : Text) : Bool :=
  ["..", "%2e.", ".%2e", "%2e%2e"].any (·.toList = s.map Char.toLower)

/-- Whether a text starts with a letter and a colon or a bar. -/
def startsWithDrive : Text → Bool
  | a :: b :: _ => a.isAlpha && (b = ':' || b = '|')
  | _ => false

/-- Whether a segment is the name of a drive. -/
def isDrive (s : Text) : Bool := s.length = 2 && startsWithDrive s

/-- Whether there is no way up from a segment: it is a drive, or one with a backslash behind it. -/
def isTop (s : Text) : Bool := startsWithDrive s && (s.length = 2 || s[2]? = some '\\')

/-- The segments, last one first, seen from the directory above. -/
def shorten : List Text → List Text
  | s :: rest => if isTop s then s :: rest else rest
  | [] => []

/-- The segments so far, last one first, with one more; `final` says whether it is the last. -/
def pushSegment (isFile : Bool) (segments : List Text) (s : Text) (final : Bool) : List Text :=
  if isDoubleDot s then
    if final then [] :: shorten segments else shorten segments
  else if isSingleDot s then if final then [] :: segments else segments
  else if isFile && segments.isEmpty && isDrive s then (s.take 1 ++ [':']) :: segments
  else Percent.encode Percent.inPath s :: segments

/-- The segments of a path in order. -/
def foldSegments (isFile : Bool) : List Text → List Text → List Text
  | segments, [] => segments.reverse
  | segments, [s] => (pushSegment isFile segments s true).reverse
  | segments, s :: rest => foldSegments isFile (pushSegment isFile segments s false) rest

/-- The segments of the path of a file without empty ones in front. -/
def dropEmpty : List Text → List Text
  | [] :: s :: rest => dropEmpty (s :: rest)
  | segments => segments

/-- The segments of what follows the first slash of a path. -/
def segmentsOf (scheme : Text) (body : Text) : List Text :=
  foldSegments (scheme = fileScheme) [] (Text.split (isSlash (isSpecial scheme)) body)

def pathOf (segments : List Text) : Text := '/' :: Text.join ['/'] segments

def dropSlash (special : Bool) : Text → Text
  | c :: rest => if isSlash special c then rest else c :: rest
  | [] => []

/-! ## Authorities -/

/-- User and password in normal form: the first colon parts them, and what is empty is left out. -/
def user (cs : Text) : Text :=
  let (name, password) := splitBefore (· = ':') cs
  let name := Percent.encode Percent.inUser name
  let password := Percent.encode Percent.inUser (password.drop 1)
  if name = [] ∧ password = [] then []
  else name ++ (if password = [] then [] else ':' :: password) ++ ['@']

/-- The user before the last `@` of an authority, in normal form, and the text
behind it. An `@` that stands first needs a host behind it. -/
def splitUser? (special : Bool) (cs : Text) : Option (Text × Text) :=
  let isEnd : Char → Bool := fun c => isSlash special c || isPathEnd c
  let (authority, behind) := splitBefore isEnd cs
  match (Text.split (· = '@') authority).reverse with
  | last :: before@(_ :: _) =>
    let written := Text.join ['@'] before.reverse
    if written = [] ∧ last = [] ∧ behind ≠ [] then none else some (user written, last ++ behind)
  | _ => some ([], cs)

/-- Splits a host from what follows it: a colon outside brackets, or the end of the authority. -/
def splitHost (special : Bool) (inBrackets : Bool) : Text → Text × Text
  | [] => ([], [])
  | c :: rest =>
    if (c = ':' && !inBrackets) || isSlash special c || isPathEnd c then ([], c :: rest)
    else
      let (host, behind) := splitHost special (c = '[' || (inBrackets && c ≠ ']')) rest
      (c :: host, behind)

/-- The largest number behind a host. -/
def maxNumber : Nat := 65535

/-- The number behind a host, if it is not the usual one, and the text that
follows. A colon alone stands for no number. -/
def splitNumber? (usual : Option Nat) : Text → Option (Option Nat × Text)
  | ':' :: cs =>
    let digits := cs.takeWhile Char.isDigit
    let behind := cs.drop digits.length
    let n := Host.number 10 (digits.map fun c => c.toNat - '0'.toNat)
    if maxNumber < n ∨ behind.head?.any (fun c => !isSlash true c && !isPathEnd c) then none
    else some (if digits = [] ∨ usual = some n then none else some n, behind)
  | cs => some (none, cs)

/-- An authority in normal form, and the text that follows it. -/
def splitAuthority? (scheme cs : Text) : Option (Authority × Text) := do
  let special := isSpecial scheme
  let (user, behindUser) ← splitUser? special cs
  let (written, behindHost) := splitHost special false behindUser
  let host ← if special then Host.ofText? written else Host.ofPlainText? written
  if host = .missing ∧ (user ≠ [] ∨ behindHost.head? = some ':') then none
  let (number, behind) ← splitNumber? (usualNumber? scheme) behindHost
  return (⟨user, host, number⟩, behind)

/-! ## Parsing -/

/-- Query and fragment of what follows a path. -/
def tail (scheme : Text) (cs : Text) : Option Text × Option Text :=
  let (query, rest) := match cs with
    | '?' :: rest =>
      let (q, rest) := splitBefore (· = '#') rest
      let special := Percent.inQuery ++ if isSpecial scheme then ['\''] else []
      (some (Percent.encode special q), rest)
    | _ => (none, cs)
  match rest with
  | '#' :: f => (query, some (Percent.encode Percent.inFragment f))
  | _ => (query, none)

def withAuthority? (scheme cs : Text) : Option Uri := do
  let (authority, cs) ← splitAuthority? scheme cs
  let (written, cs) := splitBefore isPathEnd cs
  let (query, fragment) := tail scheme cs
  let path := if written = [] ∧ !isSpecial scheme then []
    else pathOf (segmentsOf scheme (dropSlash (isSpecial scheme) written))
  return ⟨scheme, some authority, path, false, query, fragment⟩

/-- The URI of a file on a host, from the text behind the first slash of its
path. A path that starts with a drive drops the host. -/
def fileUri (host : Host) (cs : Text) : Uri :=
  let (body, cs) := splitBefore isPathEnd cs
  let (query, fragment) := tail fileScheme cs
  let segments := segmentsOf fileScheme body
  let host := if segments.head?.any isDrive then .missing else host
  ⟨fileScheme, some ⟨[], host, none⟩, pathOf (dropEmpty segments), false, query, fragment⟩

/-- The URI of a file, from the text behind its two slashes. -/
def fileUriOnHost? (cs : Text) : Option Uri :=
  let (written, behind) := splitBefore (fun c => isSlash true c || isPathEnd c) cs
  if isDrive written then some (fileUri .missing cs)
  else if written = [] then some (fileUri .missing behind)
  else do
    let host ← Host.ofText? written
    if host = .localhost then return fileUri .missing behind
    return fileUri host (dropSlash true behind)

/-- The URI of a file, from the text behind its scheme. -/
def fileUri? (rest : Text) : Option Uri :=
  match rest with
  | a :: b :: cs =>
    if isSlash true a && isSlash true b then fileUriOnHost? cs
    else some (fileUri .missing (dropSlash true rest))
  | _ => some (fileUri .missing (dropSlash true rest))

/-- A URI of a scheme that need not have an authority. -/
def otherUri? (scheme rest : Text) : Option Uri :=
  match rest with
  | '/' :: '/' :: cs => withAuthority? scheme cs
  | '/' :: cs =>
    let (body, cs) := splitBefore isPathEnd cs
    let (query, fragment) := tail scheme cs
    some ⟨scheme, none, pathOf (segmentsOf scheme body), false, query, fragment⟩
  | _ =>
    let (path, cs) := splitBefore isPathEnd rest
    let (query, fragment) := tail scheme cs
    some ⟨scheme, none, Percent.encode [] path, true, query, fragment⟩

/-- The URI that a text spells out. -/
def ofText? (cs : Text) : Option Uri := do
  let (scheme, rest) ← scheme? (clean cs)
  if scheme = fileScheme then fileUri? rest
  else if isSpecial scheme then withAuthority? scheme (rest.dropWhile (isSlash true))
  else otherUri? scheme rest

end Uri

end ClassLens
