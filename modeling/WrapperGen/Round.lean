import WrapperGen.Output

/-!
# Rounds

A front end may resolve types little by little, so models are generated in rounds. A round takes the
models that are ready and have not been handled before; the others are put off. All that is kept
from round to round are the names of the models handled. When a file cannot be stored the round ends
there, and the model it was for is taken up again in a later round.
-/

namespace WrapperGen

/-- What a round has done. -/
structure RoundOutcome where
  /-- The stored files, in the order of their models. -/
  written : List WrittenFile := []
  /-- The qualified names of the models that wait. -/
  deferred : List String := []
  /-- The problems that were found, in order. -/
  diagnostics : List Diagnostic := []
deriving DecidableEq, Repr, Inhabited

namespace RoundOutcome

/-- How many errors were found. -/
def errorCount (o : RoundOutcome) : Nat := Diagnostic.errorCount o.diagnostics

/-- Whether any error was found. -/
def hasErrors (o : RoundOutcome) : Bool := 0 < o.errorCount

/-- One more diagnostic. -/
def report (o : RoundOutcome) (d : Diagnostic) : RoundOutcome :=
  { o with diagnostics := o.diagnostics ++ [d] }

end RoundOutcome

/-- What generates models, round by round. -/
structure Processor where
  options : Options
  roots : OutputRoots
  /-- The qualified names of the models handled so far. -/
  handled : List String := []
deriving DecidableEq, Repr

namespace Processor

/-- The processor with one more model handled. -/
def handle (p : Processor) (name : String) : Processor := { p with handled := p.handled ++ [name] }

/-- The diagnostic of a model that waits. -/
def deferredDiagnostic (name : String) : Diagnostic where
  kind := .deferredSymbol
  symbol := name
  message := "declaration is not fully resolved; deferring to a later round"

/-- The outcome before any model is generated: those that wait are put down. -/
def deferAll (s : SymbolSource) (deferred : List DeclarationId) : RoundOutcome where
  deferred := deferred.map s.nameOf
  diagnostics := deferred.map fun id => deferredDiagnostic (s.nameOf id)

/-- The event of a model that was handled before. -/
def handledEvent (name : String) : Event where
  level := .debug
  reporter := .processor
  message := "already generated in an earlier round"
  details := [("model", name)]

/-- Generates models one after the other, up to the first whose file cannot be stored. -/
def generateAll (s : SymbolSource) : List DeclarationId → Processor → RoundOutcome →
    Script (Except IoError RoundOutcome × Processor)
  | [], p, outcome => pure (.ok outcome, p)
  | id :: ids, p, outcome => do
    let name := s.nameOf id
    if name ∈ p.handled then
      Script.log (handledEvent name)
      generateAll s ids p outcome
    else
      match buildModel s id p.options.markers with
      | .error d =>
        Script.log d.event
        generateAll s ids (p.handle name) (outcome.report d)
      | .ok model =>
        let generation := generate s model p.options
        Script.logAll (generation.events model)
        Script.logAll (generation.diagnostics.map Diagnostic.event)
        match ← p.roots.store generation.file with
        | .error e => return (.error e, p)
        | .ok file =>
          generateAll s ids (p.handle name) {
            outcome with
            diagnostics := outcome.diagnostics ++ generation.diagnostics
            written := outcome.written ++ [file] }

/-- Runs a round over a source. -/
def runRound (p : Processor) (s : SymbolSource) :
    Script (Except IoError RoundOutcome × Processor) := do
  let scanned := scan s p.options.markers
  Script.logAll (scanEvents s p.options.markers)
  let outcome := deferAll s scanned.deferred
  Script.logAll (outcome.diagnostics.map Diagnostic.event)
  generateAll s scanned.ready p outcome

end Processor

end WrapperGen
