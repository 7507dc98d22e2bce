import WrapperGen.CommandLine
import WrapperGen.Disk.Script
import WrapperGen.Settings.Environment
import WrapperGen.Toml.Document
import WrapperGen.Wrapper.Generate

/-!
# Settings

Settings come from the command line, the environment, a file and built-in defaults; the first
of these that gives a setting decides it, and each marker is a setting of its own. Only the
outcome has to be of the right kind, so a later source can mend an earlier one, unless the file
cannot be read at all.
-/

namespace WrapperGen

/-- What a run works with. -/
structure Settings where
  /-- The symbol dump. -/
  symbols : Option Path := none
  outDirectory : Path := ⟨"build/generated/kowo"⟩
  sourcesDirectory : Option Path := none
  recordsDirectory : Option Path := none
  /-- Where the names of models that wait are put. -/
  deferredFile : Option Path := none
  options : Options := {}
  /-- Whether errors in models are no failure of the run. -/
  allowErrors : Bool := false
deriving DecidableEq, Repr, Inhabited

/-- A setting that cannot be used, as the keys that lead to it. There are none when
the file cannot be read. -/
structure SettingError where
  keys : List String
deriving DecidableEq, Repr

/-- The key of the setting. -/
def SettingError.key (e : SettingError) : String := Text.joined "." e.keys

/-- The text of a setting error. -/
def SettingError.message (e : SettingError) : String :=
  if e.keys = [] then "the configuration file cannot be read"
  else "invalid value for key `" ++ e.key ++ "`"

namespace Settings

/-! ## Values by kind -/

/-- A value that has to be text. -/
def decodeText (keys : List String) : SettingValue → Except SettingError String
  | .text s => .ok s
  | _ => .error ⟨keys⟩

/-- A value that has to be a path. -/
def decodePath (keys : List String) (value : SettingValue) : Except SettingError Path :=
  (decodeText keys value).map Path.mk

/-- A value that has to be a flag. -/
def decodeFlag (keys : List String) : SettingValue → Except SettingError Bool
  | .flag b => .ok b
  | _ => .error ⟨keys⟩

/-- Values in a list that have to be texts, counted from `index`. -/
def decodeItems (keys : List String) : Nat → List SettingValue → Except SettingError (List String)
  | _, [] => .ok []
  | index, value :: values => do
    let s ← decodeText (keys ++ [toString index]) value
    let rest ← decodeItems keys (index + 1) values
    return s :: rest

/-- A value that has to be a list of texts. -/
def decodeTexts (keys : List String) : SettingValue → Except SettingError (List String)
  | .list values => decodeItems keys 0 values
  | _ => .error ⟨keys⟩

/-- The value of a key in a table, or what holds when it is not given. -/
def valueAt {α : Type} (keys : List String)
    (decode : List String → SettingValue → Except SettingError α) (default : α)
    (entries : SettingTable) (key : String) : Except SettingError α :=
  match entries.lookup key with
  | some value => decode (keys ++ [key]) value
  | none => .ok default

/-- Markers, by name or as a list of the three. -/
def decodeMarkers (keys : List String) : SettingValue → Except SettingError Markers
  | .table entries => do
    let defaults : Markers := {}
    let config ← valueAt keys decodeText defaults.config entries "config"
    let hook ← valueAt keys decodeText defaults.hook entries "hook"
    let nest ← valueAt keys decodeText defaults.nest entries "nest"
    return ⟨config, nest, hook⟩
  | .list values => do
    let defaults : Markers := {}
    let texts ← decodeItems keys 0 (values.take 3)
    return ⟨texts[0]?.getD defaults.config, texts[1]?.getD defaults.nest,
      texts[2]?.getD defaults.hook⟩
  | _ => .error ⟨keys⟩

/-! ## All settings -/

/-- Settings as a table gives them. They are looked at in the order of their keys;
other keys are ignored. -/
def ofTable (table : SettingTable) : Except SettingError Settings := do
  let defaults : Settings := {}
  let maybePath := fun keys value => some <$> decodePath keys value
  let allowErrors ← valueAt [] decodeFlag defaults.allowErrors table "allow_errors"
  let deferredFile ← valueAt [] maybePath defaults.deferredFile table "deferred_file"
  let markers ← valueAt [] decodeMarkers defaults.options.markers table "markers"
  let outDirectory ← valueAt [] decodePath defaults.outDirectory table "out_dir"
  let recordsDirectory ← valueAt [] maybePath defaults.recordsDirectory table "records_dir"
  let namespaces ← valueAt [] decodeTexts defaults.options.namespaces table "simplified_namespaces"
  let sourcesDirectory ← valueAt [] maybePath defaults.sourcesDirectory table "sources_dir"
  let symbols ← valueAt [] maybePath defaults.symbols table "symbols"
  return {
    symbols, outDirectory, sourcesDirectory, recordsDirectory, deferredFile, allowErrors
    options := ⟨markers, namespaces⟩ }

/-- Where generated sources go. -/
def sourcesRoot (s : Settings) : Path := s.sourcesDirectory.getD (s.outDirectory.join ⟨"kotlin"⟩)

/-- Where records go. -/
def recordsRoot (s : Settings) : Path := s.recordsDirectory.getD (s.outDirectory.join ⟨"deps"⟩)

/-! ## Loading -/

/-- The name of the settings file that is looked for. -/
def fileName : String := "kowo-gen.toml"

/-- Why settings cannot be loaded. -/
inductive LoadFailure where
  /-- The settings file named on the command line does not exist. -/
  | missing (path : Path)
  | invalid (error : SettingError)
deriving DecidableEq, Repr

/-- The first of some directories that holds a settings file, as the path of the file. -/
def findFile : List Path → Script (Option Path)
  | [] => pure none
  | directory :: directories => do
    let path := directory.join ⟨fileName⟩
    if ← Script.ask (.isFile path) then return some path else findFile directories

/-- The settings file to read: the one that is named, or one in the working
directory or around it. -/
def chooseFile (named : Option Path) : Script (Except LoadFailure (Option Path)) := do
  match named with
  | some path =>
      if ← Script.ask (.isFile path) then return .ok (some path) else return .error (.missing path)
  | none =>
    let directory ← Script.ask .workingDirectory
    return .ok (← findFile directory.outwards)

/-- The settings that a file gives. -/
def readFile (path : Path) : Script (Except LoadFailure SettingTable) := do
  match ← Script.ask (.readFile path) with
  | .error _ => return .error (.invalid ⟨[]⟩)
  | .ok text =>
    match Toml.settings? text with
    | some table => return .ok table
    | none => return .error (.invalid ⟨[]⟩)

/-- The settings of the three sources together, later ones winning. -/
def ofSources (file environment commandLine : SettingTable) : Except LoadFailure Settings :=
  match ofTable (mergeAll [file, environment, commandLine]) with
  | .ok settings => .ok settings
  | .error e => .error (.invalid e)

/-- Loads the settings of a run. -/
def load (c : CommandLine) (environment : Environment.Variables) :
    Script (Except LoadFailure Settings) := do
  match ← chooseFile (c.path? .config) with
  | .error e => return .error e
  | .ok none => return ofSources [] (Environment.settings environment) c.settings
  | .ok (some path) =>
    match ← readFile path with
    | .error e => return .error e
    | .ok file => return ofSources file (Environment.settings environment) c.settings

end Settings

end WrapperGen
