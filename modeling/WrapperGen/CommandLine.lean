import WrapperGen.Settings.Value
import WrapperGen.Disk.Path
import WrapperGen.Text.Joined

/-!
# The command line

Options are read from left to right. A mistake in an argument itself ends the reading at once. A
mistake about an option that was named before, one without a value or one given twice, shows only
when the option is settled: when the next option is reached, or the end.
-/

namespace WrapperGen

/-! ## Options -/

/-- An option that takes a value. -/
inductive ValueOption where
  | config
  | symbols
  | outDirectory
  | sourcesDirectory
  | recordsDirectory
  | deferredFile
  | simplify
deriving DecidableEq, Repr

namespace ValueOption

/-- All options that take a value, in the order of the help. -/
def all : List ValueOption :=
  [config, symbols, outDirectory, sourcesDirectory, recordsDirectory, deferredFile, simplify]

/-- The name behind the two dashes. -/
def name : ValueOption → String
  | config => "config"
  | symbols => "symbols"
  | outDirectory => "out-dir"
  | sourcesDirectory => "sources-dir"
  | recordsDirectory => "records-dir"
  | deferredFile => "deferred-file"
  | simplify => "simplify"

/-- The option of a name. -/
def ofName? (name : String) : Option ValueOption := all.find? (·.name == name)

/-- Whether the option may be given more than once. -/
def isRepeatable (o : ValueOption) : Bool := o == simplify

end ValueOption

/-- An option without a value. -/
inductive FlagOption where
  | allowErrors
  | help
  | version
deriving DecidableEq, Repr

namespace FlagOption

/-- All options without a value, in the order of the help. -/
def all : List FlagOption := [allowErrors, help, version]

/-- The name behind the two dashes. -/
def name : FlagOption → String
  | allowErrors => "allow-errors"
  | help => "help"
  | version => "version"

/-- The option of a name. -/
def ofName? (name : String) : Option FlagOption := all.find? (·.name == name)

end FlagOption

/-- A command line: which options were given which values, in order. -/
structure CommandLine where
  given : List (ValueOption × String) := []
  allowErrors : Bool := false
deriving DecidableEq, Repr, Inhabited

namespace CommandLine

/-- The values of an option. -/
def values (c : CommandLine) (o : ValueOption) : List String := (c.given.filter (·.1 = o)).map (·.2)

/-- The value of an option that is given once at most. -/
def value? (c : CommandLine) (o : ValueOption) : Option String := c.given.lookup o

/-- The path that an option gives. -/
def path? (c : CommandLine) (o : ValueOption) : Option Path := (c.value? o).map Path.mk

/-- The settings that are given. Where the settings file is to be found is none of them. -/
def settings (c : CommandLine) : SettingTable :=
  let text := fun (key : String) (o : ValueOption) =>
    (c.value? o).toList.map fun s => (key, SettingValue.text s)
  text "symbols" .symbols ++ text "out_dir" .outDirectory ++ text "sources_dir" .sourcesDirectory
    ++ text "records_dir" .recordsDirectory ++ text "deferred_file" .deferredFile
    ++ (if c.values .simplify = [] then []
        else [("simplified_namespaces", .list ((c.values .simplify).map .text))])
    ++ (if c.allowErrors then [("allow_errors", .flag true)] else [])

/-! ## Reading -/

/-- A mistake in the arguments. -/
inductive UsageError where
  | unknownArgument
  /-- An option without its value. -/
  | missingValue
  /-- A value for an option that takes none. -/
  | unexpectedValue
  /-- An option given twice. -/
  | repeated
deriving DecidableEq, Repr

/-- The text of a mistake. -/
def UsageError.message : UsageError → String
  | .unknownArgument => "unexpected argument found"
  | .missingValue => "a value is required for an option but none was supplied"
  | .unexpectedValue => "unexpected value for an option that takes none"
  | .repeated => "an option cannot be used multiple times"

/-- Why there is nothing to generate. -/
inductive Stop where
  /-- Help was asked for, in full or as a summary. -/
  | help (full : Bool)
  | version
  | mistake (error : UsageError)
deriving DecidableEq, Repr

/-- An argument by its form. -/
inductive Argument where
  /-- Two dashes, a name and perhaps a value behind an equals sign. -/
  | long (name : String) (value : Option String)
  /-- A dash and letters, each an option of its own. -/
  | short (first : Char)
  /-- Two dashes alone: nothing behind them is an option. -/
  | endOfOptions
  | plain (text : String)
deriving DecidableEq, Repr

/-- The form of an argument. A dash alone is a plain one. -/
def Argument.ofText (text : String) : Argument :=
  match text.toList with
  | '-' :: '-' :: [] => .endOfOptions
  | '-' :: '-' :: rest =>
    match rest.span (· != '=') with
    | (name, _ :: value) => .long (String.ofList name) (some (String.ofList value))
    | (name, []) => .long (String.ofList name) none
  | '-' :: first :: _ => .short first
  | _ => .plain text

/-- An option that was named and not settled yet, with the argument behind
it if that is its value. -/
structure Pending where
  option : ValueOption
  value : Option String := none
deriving DecidableEq, Repr

/-- Gives an option a value. -/
def give (c : CommandLine) (o : ValueOption) (value : String) : Except Stop CommandLine :=
  if !o.isRepeatable && (c.value? o).isSome then .error (.mistake .repeated)
  else .ok { c with given := c.given ++ [(o, value)] }

/-- Settles the option that was named last, if there is one to settle. -/
def settle (c : CommandLine) : Option Pending → Except Stop CommandLine
  | none => .ok c
  | some ⟨_, none⟩ => .error (.mistake .missingValue)
  | some ⟨o, some value⟩ => c.give o value

/-- What an option without a value does. -/
def raise (c : CommandLine) : FlagOption → Except Stop CommandLine
  | .allowErrors =>
      if c.allowErrors then .error (.mistake .repeated) else .ok { c with allowErrors := true }
  | .help => .error (.help true)
  | .version => .error .version

/-- What the first letter behind a single dash does; both options of one letter end the reading. -/
def letterStop? : Char → Option Stop
  | 'h' => some (.help false)
  | 'V' => some .version
  | _ => none

/-- Reads the rest of the arguments. -/
def readFrom (c : CommandLine) (pending : Option Pending) : List String → Except Stop CommandLine
  | [] => c.settle pending
  | text :: rest =>
    match Argument.ofText text with
    | .endOfOptions => if rest = [] then c.settle pending else .error (.mistake .unknownArgument)
    | .long name value =>
      match ValueOption.ofName? name, FlagOption.ofName? name, value with
      | some o, _, some value => do
        let c ← c.settle pending
        let c ← c.give o value
        readFrom c none rest
      | some o, _, none => do
        let c ← c.settle pending
        readFrom c (some ⟨o, none⟩) rest
      | none, some _, some _ => .error (.mistake .unexpectedValue)
      | none, some flag, none => do
        let c ← c.settle pending
        let c ← c.raise flag
        readFrom c none rest
      | none, none, _ => .error (.mistake .unknownArgument)
    | .short first =>
      match letterStop? first with
      | some stop => do
        let _ ← c.settle pending
        throw stop
      | none => .error (.mistake .unknownArgument)
    | .plain value =>
      match pending with
      | some ⟨o, none⟩ => readFrom c (some ⟨o, some value⟩) rest
      | _ => .error (.mistake .unknownArgument)

/-- Reads the arguments of the program. -/
def read (arguments : List String) : Except Stop CommandLine := readFrom {} none arguments

/-! ## Help -/

/-- What the help says about an option. -/
structure HelpEntry where
  /-- The option as it is written. -/
  usage : String
  summary : String

/-- What an option is for. -/
def summaryOf : ValueOption → String
  | .config => "Configuration file to read instead of `kowo-gen.toml`"
  | .symbols => "JSON symbol dump describing the declarations"
  | .outDirectory => "Root for generated sources and dependency records"
  | .sourcesDirectory => "Directory for generated sources (default: `<out-dir>/kotlin`)"
  | .recordsDirectory => "Directory for dependency records (default: `<out-dir>/deps`)"
  | .deferredFile => "File receiving the qualified names of deferred models"
  | .simplify => "Namespace always written by simple name (repeat; replaces the defaults)"

/-- What stands for the value of an option. -/
def placeholder (o : ValueOption) : String := if o = .simplify then "<package>" else "<path>"

/-- The entries of the help. Each form of the help points to the other one. -/
def helpEntries (other : String) : List HelpEntry :=
  ValueOption.all.map (fun o => ⟨"    --" ++ o.name ++ " " ++ placeholder o, summaryOf o⟩) ++ [
    ⟨"    --allow-errors", "Exit successfully even when error diagnostics were reported"⟩,
    ⟨"-h, --help", "Print help (see " ++ other ++ ")"⟩,
    ⟨"-V, --version", "Print version"⟩]

/-- A text with blanks up to a width. -/
def padded (width : Nat) (text : String) : String :=
  text ++ String.ofList (List.replicate (width - text.length) ' ')

/-- The usage line. -/
def usageLine : String := "Usage: kowo-gen [OPTIONS]"

/-- The summary that help begins with. -/
def shortHelp : String :=
  Text.joined "\n" <| [
    "Generate typed owo-config wrappers from a symbol dump", "", usageLine, "", "Options:"]
    ++ (helpEntries "more with '--help'").map (fun e =>
      "  " ++ padded 28 e.usage ++ e.summary) ++ [""]

/-- The help in full. -/
def fullHelp : String :=
  Text.joined "\n" <| [
    "Parsed CLI arguments for `kowo-gen`.", "",
    "Every option left unset falls through to `kowo-gen.toml`, then to `KOWO_GEN_*` environment variables, then to built-in defaults.",
    "", usageLine, "", "Options:",
    Text.joined "\n\n" ((helpEntries "a summary with '-h'").map fun e =>
      "  " ++ e.usage ++ "\n          " ++ e.summary), ""]

/-- The name and number of this version. -/
def versionText : String := "kowo-gen 0.3.0\n"

end CommandLine

end WrapperGen
