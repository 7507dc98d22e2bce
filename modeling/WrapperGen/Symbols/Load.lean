import WrapperGen.Disk.Script
import WrapperGen.Symbols.Table

/-!
# Loading a symbol table

A table is made from the text of a dump, or from the file that holds the text. The directory of the
file is opened first, so a missing directory is reported as itself and not as a missing file.
-/

namespace WrapperGen

namespace SymbolTable

/-- Why there is no table. -/
inductive LoadFailure where
  | file (error : IoError)
  /-- The text is no dump. -/
  | dump (error : Json.ReadError)
  /-- The dump makes no table. -/
  | table (error : LoadError)
deriving Repr

/-- The message of a load failure. -/
def LoadFailure.message : LoadFailure → String
  | file e => e.message
  | dump e => "failed to parse symbol dump: " ++ e.message
  | table e => e.message

/-- What a load failure goes back to, where that has a message of its own. -/
def LoadFailure.causes : LoadFailure → List String
  | file e => [e.cause.message]
  | dump e => [e.message]
  | table (.name _ cause) => [cause.message]
  | table (.duplicate _) => []

/-- The table of the dump that a text holds. -/
def ofText (text : String) : Except LoadFailure SymbolTable :=
  match SymbolDump.read text with
  | .error e => .error (.dump e)
  | .ok dump =>
    match ofDump dump with
    | .error e => .error (.table e)
    | .ok t => .ok t

/-- The events of making a table from a text. -/
def eventsOfText (text : String) : List Event :=
  match SymbolDump.read text with
  | .error _ => []
  | .ok dump => loadEvents dump

/-- The text of a file that holds a dump. -/
def readDumpFile (path : Path) : Script (Except IoError String) :=
  match path.fileName? with
  | none => pure (.error ⟨path, .noFileName "symbol dump"⟩)
  | some name => do
    match ← Script.ask (.openDirectory path.directory) with
    | .error cause => return .error ⟨path.directory, cause⟩
    | .ok () =>
      match ← Script.ask (.readText path.directory name) with
      | .error cause => return .error ⟨path, cause⟩
      | .ok text => return .ok text

/-- The table of the dump in a file. -/
def load (path : Path) : Script (Except LoadFailure SymbolTable) := do
  match ← readDumpFile path with
  | .error e => return .error (.file e)
  | .ok text =>
    Script.logAll (eventsOfText text)
    return ofText text

end SymbolTable

end WrapperGen
