import ClassLens.Check.Report
import ClassLens.Server.Basic
/-
  The command line — what the program is asked to do

  Without arguments the program serves an editor. `check` takes any number of
  files and directories and two options, each at most once; an option takes its
  value from behind an equals sign or from the next argument, and everything
  behind two hyphens is a path. Help and the version also have a letter, and are
  given at once when they are asked for, whatever letters or arguments follow.
-/

namespace ClassLens

namespace CommandLine

/-- What to check, and how. -/
structure CheckArgs where
  paths : List Path
  root : Option Path
  format : Option Check.Format
  deriving Repr

/-- What the program is asked to do. -/
inductive Command where
  | serve
  | check (args : CheckArgs)
  | version
  | help
  deriving Repr

/-- What a finished program leaves: its exit code and what it printed. -/
structure Finished where
  exit : Nat
  stdout : Text
  deriving Repr

/-- The exit code for arguments that make no sense, and for failures. -/
def failed : Finished := ⟨2, []⟩

/-- Whether an argument is taken for an option. -/
def isFlag (arg : Text) : Bool := arg.length > 1 && arg.head? == some '-'

def format? (name : Text) : Option Check.Format :=
  if name = "text".toList then some .text
  else if name = "json".toList then some .json
  else none

/-- An option of `check`. -/
inductive CheckOption where
  | root
  | format
  deriving Repr, DecidableEq

def option? (name : Text) : Option CheckOption :=
  if name = "--root".toList then some .root
  else if name = "--format".toList then some .format
  else none

/-- The arguments with an option set, unless it was set before or cannot have the value. -/
def setOption (args : CheckArgs) (option : CheckOption) (value : Text) : Option CheckArgs :=
  match option with
  | .root =>
    if args.root.isSome ∨ value = [] then none else some { args with root := some (.ofText value) }
  | .format =>
    if args.format.isSome then none
    else (format? value).map fun f => { args with format := some f }

def addPath (args : CheckArgs) (p : Text) : Option CheckArgs :=
  if p = [] then none else some { args with paths := args.paths ++ [.ofText p] }

/-- The name and the value of an option written with an equals sign. -/
def splitEquals (arg : Text) : Text × Option Text :=
  let name := arg.takeWhile (· ≠ '=')
  match arg.drop name.length with
  | _ :: value => (name, some value)
  | [] => (name, none)

/-- Whether an argument is a word, or starts with the letter that stands for it. -/
def asksFor (word : String) (letter : Char) (arg : Text) : Bool :=
  arg = '-' :: '-' :: word.toList || Text.startsWith ['-', letter] arg

def asksForHelp (arg : Text) : Bool := asksFor "help" 'h' arg

def asksForVersion (arg : Text) : Bool := asksFor "version" 'V' arg

/-- Reads the arguments of `check`. `pathsOnly` says whether two hyphens came before. -/
def parseCheck (pathsOnly : Bool) (args : CheckArgs) : List Text → Option Command
  | [] => some (.check args)
  | arg :: rest =>
    if pathsOnly || !isFlag arg then (addPath args arg).bind fun a => parseCheck pathsOnly a rest
    else if arg = ['-', '-'] then parseCheck true args rest
    else if asksForHelp arg then some .help
    else
      match option? (splitEquals arg).1, (splitEquals arg).2 with
      | none, _ => none
      | some o, some value => (setOption args o value).bind fun a => parseCheck pathsOnly a rest
      | some o, none =>
        match rest with
        | [] => none
        | value :: rest =>
          if isFlag value then none
          else (setOption args o value).bind fun a => parseCheck pathsOnly a rest

/-- Reads the arguments of `serve`, which takes none. -/
def parseServe : List Text → Option Command
  | [] => some .serve
  | arg :: rest =>
    if arg = ['-', '-'] ∧ rest = [] then some .serve
    else if asksForHelp arg then some .help
    else none

/-- Reads the arguments of `help`: nothing, or the name of a command. -/
def parseHelp : List Text → Option Command
  | [] => some .help
  | [name] => if ["serve", "check", "help"].any (·.toList = name) then some .help else none
  | _ => none

/-- Reads the arguments of the program. -/
def parse (args : List Text) : Option Command :=
  match args with
  | [] => some .serve
  | arg :: rest =>
    if asksForVersion arg then some .version
    else if arg = "help".toList then parseHelp rest
    else if arg = "serve".toList then parseServe rest
    else if arg = "check".toList then parseCheck false ⟨[], none, none⟩ rest
    else parseServe args

/-- The directory where a check starts if nothing else is said. -/
def here : Path := .ofText ['.']

/-- The exit code of a computation that stopped midway. -/
def stoppedCode : Nat := 101

def runCheck (disk : Disk) (args : CheckArgs) : Finished :=
  let paths := if args.paths.isEmpty then [here] else args.paths
  match Config.load disk (args.root.getD here) with
  | .error _ => failed
  | .ok config =>
    match Check.run disk config paths with
    | .error _ => failed
    | .ok (.error _) => ⟨stoppedCode, []⟩
    | .ok (.ok report) =>
      ⟨if report.isClean then 0 else 1, report.write (args.format.getD .text)⟩

/-- What the program prints about its version. -/
def versionText : Text :=
  Server.programName.toList ++ ' ' :: Server.programVersion.toList ++ ['\n']

/-- The short description of how to call the program. -/
def helpText : Text :=
  "Usage: stylename [serve | check [PATHS]... [--root ROOT] [--format text|json]]\n".toList

/-- What the program leaves when nobody talks to it: serving then ends at once. -/
def run (disk : Disk) (args : List Text) : Finished :=
  match parse args with
  | none => failed
  | some .serve => ⟨0, []⟩
  | some .version => ⟨0, versionText⟩
  | some .help => ⟨0, helpText⟩
  | some (.check args) => runCheck disk args

end CommandLine

end ClassLens
