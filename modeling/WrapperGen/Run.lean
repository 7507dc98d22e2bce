import WrapperGen.Round
import WrapperGen.Settings
import WrapperGen.Symbols.Load

/-!
# A run of the generator

A run loads the symbol dump, generates every model that is ready in a single round, and writes down
which models wait. Errors in models fail the run only after everything is stored.
-/

namespace WrapperGen

/-- Why a run failed. -/
inductive Failure where
  | settings (failure : Settings.LoadFailure)
  | missingSymbols
  | symbols (failure : SymbolTable.LoadFailure)
  /-- A file could not be stored. -/
  | output (error : IoError)
  /-- There are errors in models. -/
  | diagnostics (count : Nat)
deriving Repr

namespace Failure

/-- The message of a failure. -/
def message : Failure → String
  | settings (.missing path) => "configuration file " ++ path.text ++ " does not exist"
  | settings (.invalid e) => "failed to load configuration: " ++ e.message
  | missingSymbols => "no symbol dump given; pass --symbols or set `symbols` in kowo-gen.toml"
  | symbols e => e.message
  | output e => e.message
  | diagnostics count =>
    toString count ++ " error diagnostic(s) reported; pass --allow-errors to accept the output"

/-- What a failure goes back to, where that has a message of its own. -/
def causes : Failure → List String
  | settings (.missing _) => []
  | settings (.invalid e) => [e.message]
  | missingSymbols => []
  | symbols e => e.causes
  | output e => [e.cause.message]
  | diagnostics _ => []

end Failure

namespace Run

/-- The event of loading a dump. -/
def loadedEvent (path : Path) (t : SymbolTable) : Event where
  level := .debug
  reporter := .run
  message := "loaded symbol dump"
  details := [("path", path.text), ("declarations", toString t.size)]

/-- The event of a round that is complete. -/
def completeEvent (o : RoundOutcome) : Event where
  level := .info
  reporter := .run
  message := "generation round complete"
  details := [
    ("generated", toString o.written.length),
    ("unchanged", toString (o.written.countP (·.status = .unchanged))),
    ("deferred", toString o.deferred.length),
    ("errors", toString o.errorCount)]

/-- The names of the models that wait, each on a line of its own. -/
def deferredListing (names : List String) : String :=
  let listing := Text.joined "\n" names
  if listing = "" then listing else listing ++ "\n"

/-- The processor of a run; `process` is the mark of the running program in
names of temporary files. -/
def processor (s : Settings) (process : String) : Processor where
  options := s.options
  roots := ⟨s.sourcesRoot, s.recordsRoot, process⟩

/-- Stores the list of models that wait, if one is asked for; it is stored even when it is empty, so
that an earlier list never stays. -/
def storeDeferred (s : Settings) (process : String) (o : RoundOutcome) :
    Script (Except IoError Unit) := do
  match s.deferredFile with
  | none => return .ok ()
  | some path =>
    match ← writeAtomic process path (deferredListing o.deferred) with
    | .error e => return .error e
    | .ok _ => return .ok ()

/-- Generates from a table. -/
def generateFrom (s : Settings) (process : String) (t : SymbolTable) :
    Script (Except Failure RoundOutcome) := do
  let (result, _) ← (processor s process).runRound { table := t }
  match result with
  | .error e => return .error (.output e)
  | .ok outcome =>
    match ← storeDeferred s process outcome with
    | .error e => return .error (.output e)
    | .ok () =>
      Script.log (completeEvent outcome)
      if outcome.hasErrors && !s.allowErrors then return .error (.diagnostics outcome.errorCount)
      else return .ok outcome

/-- Does everything that the settings ask for. -/
def run (s : Settings) (process : String) : Script (Except Failure RoundOutcome) := do
  match s.symbols with
  | none => return .error .missingSymbols
  | some path =>
    match ← SymbolTable.load path with
    | .error e => return .error (.symbols e)
    | .ok table =>
      Script.log (loadedEvent path table)
      generateFrom s process table

end Run

end WrapperGen
