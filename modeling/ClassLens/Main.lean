import ClassLens.CommandLine
import ClassLens.Server.Transport
import ClassLens.Watch.Poll
/-
  The program — the command line, the file system and the pipe to an editor

  Everything else is computed from a value of type `Disk`, so the program reads
  what it may be asked about first. A check reads the trees of the given paths.
  A server reads the trees of its workspace and of the open documents before
  every message; what changed meanwhile enters as file changes, and the time
  that passed moves the pending updates on.
-/

namespace ClassLens

namespace Program

/-! ## Reading the file system -/

/-- Whether the content of a file can matter: that of components, stylesheets and settings. -/
def matters (extensions : List Text) (p : Path) : Bool :=
  p.fileName? == some (Utf8.encode Config.fileName) ||
    match p.extension? with
    | some ext => extensions.contains ext
    | none => false

/-- The disk with the file at an absolute path, if it can be read. -/
def loadFile (disk : Disk) (p : Path) : IO Disk := do
  let name := String.ofList p.display
  try
    let info ← (← IO.FS.realPath name).metadata
    let content := Content.ofBytes (← IO.FS.readBinFile name)
    let modified := info.modified.sec * 1000000000 + info.modified.nsec.toNat
    return disk.write p content modified
  catch _ => return disk

/-- The disk with all that lies below an absolute path. Links to directories are not followed. -/
partial def loadTree (extensions : List Text) (disk : Disk) (p : Path) : IO Disk := do
  let place ← IO.FS.realPath (String.ofList p.display)
  let mut disk := disk.makeDirectory p
  for entry in ← place.readDir do
    let inner := p.joinText entry.fileName.toList
    match (← entry.path.symlinkMetadata).type with
    | .dir => disk ← loadTree extensions disk inner
    | _ => if matters extensions inner then disk ← loadFile disk inner
  return disk

/-- The disk with what lies at an absolute path and, for a file, beside it. -/
def load (extensions : List Text) (disk : Disk) (p : Path) : IO Disk := do
  try
    if ← (← IO.FS.realPath (String.ofList p.display)).isDir then loadTree extensions disk p
    else
      let disk ← loadFile disk p
      match p.parent? with
      | some directory => loadTree extensions disk directory
      | none => return disk
  catch _ => return disk

/-- A disk without files, in the working directory of the program. -/
def emptyDisk : IO Disk := do
  let cwd : Path := .ofText (toString (← IO.currentDir)).toList
  return { Disk.empty.makeDirectory cwd with cwd }

/-- The extensions of files that settings give a meaning to. -/
def extensionsOf (c : Config) : List Text :=
  "css".toList :: c.cssExtensions ++ c.componentExtensions

def snapshot (c : Config) (paths : List Path) : IO Disk := do
  let disk ← emptyDisk
  paths.foldlM (fun d p => load (extensionsOf c) d (Path.absoluteIn disk.cwd p)) disk

/-! ## Checking -/

def finish (f : CommandLine.Finished) : IO UInt32 := do
  IO.print (String.ofList f.stdout)
  return f.exit.toUInt32

def check (args : CommandLine.CheckArgs) : IO UInt32 := do
  let root := args.root.getD CommandLine.here
  let empty ← emptyDisk
  let settings ← loadFile empty (Path.absoluteIn empty.cwd (root.joinText Config.fileName))
  let config := (Config.load settings root).toOption.getD Config.standard
  let paths := if args.paths.isEmpty then [CommandLine.here] else args.paths
  let trees ← snapshot config paths
  let disk ← loadFile trees (Path.absoluteIn empty.cwd (root.joinText Config.fileName))
  finish (CommandLine.runCheck disk args)

/-! ## Serving -/

/-- Reads a number of bytes, or as many as there are. -/
partial def readBytes (input : IO.FS.Stream) (count : Nat) (before : ByteArray) : IO ByteArray := do
  if before.size ≥ count then return before
  let more ← input.read (count - before.size).toUSize
  if more.isEmpty then return before
  readBytes input count (before ++ more)

/-- Reads the header of a message: the length of its body, or `none` at the end of the input. -/
partial def readHeader (input : IO.FS.Stream) (length : Nat) : IO (Option Nat) := do
  let line ← input.getLine
  if line.isEmpty then return none
  let cs := Text.trim line.toList
  if cs.isEmpty then return some length
  readHeader input ((Transport.contentLength? cs).getD length)

/-- Reads the body of the next message. -/
def readBody (input : IO.FS.Stream) : IO (Option Text) := do
  match ← readHeader input 0 with
  | none => return none
  | some length =>
    let bytes ← readBytes input length ByteArray.empty
    return some ((String.fromUTF8? bytes).getD "").toList

def send (output : IO.FS.Stream) (v : Json) : IO Unit := do
  output.putStr (String.ofList (Transport.frame v))
  output.flush

/-- The directories a server may look into while it handles a message. -/
def places (s : Server) (m : Message) : List Path :=
  let params := m.params.getD .null
  let named := (Server.uri? params ["textDocument", "uri"]).bind Uri.toPath?
  let changed := (Server.itemsAt params ["changes"]).filterMap fun c =>
    (Server.uri? c ["uri"]).bind Uri.toPath?
  s.root.toList ++ (Server.rootOf params).toList ++ s.documents.values.map (·.path) ++
    named.toList ++ changed

/-- A server at work: what it was at the last message. -/
structure Work where
  server : Server
  disk : Disk
  /-- When the last message came, in milliseconds. -/
  time : Nat
  /-- The number of messages sent so far. -/
  sent : Nat

/-- The server after the time and the file changes since the last message. -/
def catchUp (w : Work) (disk : Disk) (now : Nat) : Server :=
  let moved := { w.server with engine := w.server.engine.advance disk (now - w.time) }
  match moved.watch with
  | some watch =>
    if watch.isWatching then
      let changes := w.disk.changesTo disk
      { moved with engine := (watch.dispatchAll disk moved.engine changes).settle disk }
    else moved
  | none => moved

def handle (output : IO.FS.Stream) (w : Work) (incoming : Transport.Incoming) : IO Work := do
  let disk ← snapshot w.server.config (places w.server incoming.message)
  let now ← IO.monoMsNow
  let (server, reply, outgoing) := (catchUp w disk now).receive disk incoming.message
  for o in outgoing.zipIdx do
    send output (o.1.toJson (w.sent + o.2))
  match incoming.id.bind (Transport.answerTo · reply) with
  | some answer => send output answer
  | none => pure ()
  return ⟨{ server with engine := server.engine.settle disk }, disk, now, w.sent + outgoing.length⟩

/-- Serves messages until the input ends or the server is told to exit. -/
partial def serveFrom (input output : IO.FS.Stream) (w : Work) : IO Unit := do
  match ← readBody input with
  | none => return
  | some body =>
    match Json.parse? body with
    | none =>
      send output Transport.unreadableAnswer
      serveFrom input output w
    | some v =>
      match Transport.Incoming.ofJson? v with
      | none => serveFrom input output w
      | some incoming =>
        let w ← handle output w incoming
        if w.server.stage = .exited then return
        serveFrom input output w

/-- Serves an editor over standard input and output. -/
def serve : IO UInt32 := do
  serveFrom (← IO.getStdin) (← IO.getStdout) ⟨Server.new, ← emptyDisk, ← IO.monoMsNow, 0⟩
  return 0

end Program

end ClassLens

/-- Does what the arguments ask for. -/
def main (args : List String) : IO UInt32 := do
  let args := args.map String.toList
  match ClassLens.CommandLine.parse args with
  | some .serve => ClassLens.Program.serve
  | some (.check given) => ClassLens.Program.check given
  | _ => ClassLens.Program.finish (ClassLens.CommandLine.run ClassLens.Disk.empty args)
