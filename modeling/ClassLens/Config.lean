import ClassLens.Disk
import ClassLens.Json.Basic
import ClassLens.Toml.Parser
/-
  Configuration — defaults, the workspace's file, the editor's options

  Settings are the defaults, overlaid with the file `.stylename.toml` at the
  root of the workspace, overlaid with the options that an editor sends. Every
  setting may be left out in both; names that mean nothing here are passed over.

  What this holds:
    1. `Severity` and `Config`, with `Config.standard`;
    2. `overlay?`, which reads settings from a data object;
    3. `load` and `merge`, the two sources, and `ConfigError`.
-/

namespace ClassLens

/-- How much a finding matters. -/
inductive Severity where
  | error
  | warning
  | information
  | hint
  deriving Repr, DecidableEq

namespace Severity

def name : Severity → Text
  | .error => "error".toList
  | .warning => "warning".toList
  | .information => "information".toList
  | .hint => "hint".toList

def all : List Severity := [.error, .warning, .information, .hint]

def ofName? (n : Text) : Option Severity := all.find? (·.name = n)

/-- The number that stands for a severity in diagnostics. -/
def code : Severity → Nat
  | .error => 1
  | .warning => 2
  | .information => 3
  | .hint => 4

end Severity

/-- The settings. -/
structure Config where
  /-- The attribute whose value holds class names. -/
  attributeName : Text
  /-- The extensions of files that import stylesheets and use the attribute. -/
  componentExtensions : List Text
  cssExtensions : List Text
  /-- How long a file has to stay unchanged before a change counts, in milliseconds. -/
  debounceMs : Nat
  /-- Globs of paths to ignore. -/
  ignorePatterns : List Text
  /-- Whether unknown classes are reported. -/
  diagnostics : Bool
  diagnosticSeverity : Severity
  /-- Whether to watch the files of the workspace. -/
  watch : Bool
  deriving Repr, DecidableEq

/-- Why settings could not be used. -/
inductive ConfigError where
  | unreadable (file : Path)
  | malformed (file : Path)
  | options
  deriving Repr

def ConfigError.message : ConfigError → Text
  | .unreadable file => "Failed to read ".toList ++ file.display
  | .malformed file => "Invalid config in ".toList ++ file.display
  | .options => "Invalid initializationOptions".toList

namespace Config

def fileName : Text := ".stylename.toml".toList

/-- The settings in force where nothing else is said. -/
def standard : Config where
  attributeName := "styleName".toList
  componentExtensions := ["js".toList, "jsx".toList, "ts".toList, "tsx".toList]
  cssExtensions := ["css".toList]
  debounceMs := 2000
  ignorePatterns :=
    ["**/node_modules/**".toList, "**/target/**".toList, "**/build/**".toList,
     "**/dist/**".toList, "**/.git/**".toList, "**/coverage/**".toList]
  diagnostics := true
  diagnosticSeverity := .information
  watch := true

def isComponentExtension (c : Config) (ext : Text) : Bool := c.componentExtensions.contains ext

def isComponent (c : Config) (p : Path) : Bool :=
  match p.extension? with
  | some ext => c.isComponentExtension ext
  | none => false

/-! ## Reading settings from data -/

def texts? (v : Json) : Option (List Text) := v.items?.bind fun xs => xs.mapM Json.text?

/-- A severity: its name, or an object whose only field has that name and a
value that `isUnit` takes for no value at all. -/
def severity? (isUnit : Json → Bool) : Json → Option Severity
  | .str n => Severity.ofName? n
  | .obj [(n, v)] => if isUnit v then Severity.ofName? n else none
  | _ => none

/-- The setting that a data object has under a name, or the one in force. -/
def setting? {α : Type} (options : Json) (name : String) (read : Json → Option α) (current : α) :
    Option α :=
  match options.field? name with
  | none => some current
  | some v => read v

/-- The settings overlaid with those of a data object, or `none` when one of
them has the wrong type. -/
def overlay? (isUnit : Json → Bool) (c : Config) (options : Json) : Option Config := do
  return {
    attributeName := ← setting? options "attributeName" Json.text? c.attributeName
    componentExtensions := ← setting? options "componentExtensions" texts? c.componentExtensions
    cssExtensions := ← setting? options "cssExtensions" texts? c.cssExtensions
    debounceMs := ← setting? options "debounceMs" Json.nat? c.debounceMs
    ignorePatterns := ← setting? options "ignorePatterns" texts? c.ignorePatterns
    diagnostics := ← setting? options "diagnostics" Json.bool? c.diagnostics
    diagnosticSeverity :=
      ← setting? options "diagnosticSeverity" (severity? isUnit) c.diagnosticSeverity
    watch := ← setting? options "watch" Json.bool? c.watch }

/-- The settings overlaid with the options an editor sends. Options that are no
object change nothing. -/
def merge (c : Config) (options : Json) : Except ConfigError Config :=
  match c.overlay? Json.isNull options with
  | some merged => .ok merged
  | none => .error .options

/-! ## The settings file -/

mutual

/-- A value of the settings file as data. -/
def ofToml : Toml → Json
  | .str s => .str s
  | .int n => .int n
  | .float => .real []
  | .bool b => .bool b
  | .date => .real []
  | .array items => .arr (ofTomlItems items)
  | .table _ fields => .obj (ofTomlFields fields)
  | .tables elements => .arr (ofTomlElements elements)

/-- The items of an array as data. -/
def ofTomlItems : List Toml → List Json
  | [] => []
  | v :: rest => ofToml v :: ofTomlItems rest

/-- The fields of a table as data. -/
def ofTomlFields : List (Text × Toml) → List (Text × Json)
  | [] => []
  | (k, v) :: rest => (k, ofToml v) :: ofTomlFields rest

/-- The elements of an array of tables as data. -/
def ofTomlElements : List (List (Text × Toml)) → List Json
  | [] => []
  | fields :: rest => .obj (ofTomlFields fields) :: ofTomlElements rest

end

/-- Whether a value of the settings file holds nothing. -/
def isEmptyValue : Json → Bool
  | .arr [] => true
  | .obj [] => true
  | _ => false

/-- The settings that the text of a settings file makes. -/
def ofFile? (text : Text) : Option Config :=
  (Toml.parse? text).bind fun fields => standard.overlay? isEmptyValue (.obj (ofTomlFields fields))

/-- The settings of a workspace: the defaults, overlaid with its settings file if it has one. -/
def load (disk : Disk) (root : Path) : Except ConfigError Config :=
  let file := root.joinText fileName
  if !disk.isFile file then .ok standard
  else
    match disk.read file with
    | .error _ => .error (.unreadable file)
    | .ok text =>
      match ofFile? text with
      | some c => .ok c
      | none => .error (.malformed file)

end Config

end ClassLens
