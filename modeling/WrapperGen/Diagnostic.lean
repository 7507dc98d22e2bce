import WrapperGen.Log
import WrapperGen.Text.Quoted

/-!
# Diagnostics

What is found wrong with a model while its wrapper is made. A diagnostic never stops a wrapper from
being written; how serious it is follows from its kind.
-/

namespace WrapperGen

/-- How serious a diagnostic is. -/
inductive Severity where
  /-- For information only. -/
  | info
  /-- Something was skipped, the output is still usable. -/
  | warning
  /-- The output lacks something that the model asks for. -/
  | error
deriving DecidableEq, Repr

namespace Severity

/-- The word for a severity. -/
def word : Severity → String
  | .info => "info"
  | .warning => "warning"
  | .error => "error"

/-- The place on the scale from harmless to serious. -/
def rank : Severity → Nat
  | .info => 0
  | .warning => 1
  | .error => 2

/-- The level at which diagnostics of a severity are logged. -/
def level : Severity → Level
  | .info => .info
  | .warning => .warn
  | .error => .error

/-- The more serious of two. -/
def max (a b : Severity) : Severity := if a.rank ≤ b.rank then b else a

end Severity

/-- What a diagnostic is about. -/
inductive DiagnosticKind where
  /-- A declaration is not fully resolved and waits for a later round. -/
  | deferredSymbol
  /-- A field is declared with a type parameter. -/
  | invalidFieldShape
  /-- The type of a nested section is one of the declarations around it. -/
  | illegalSelfReference
  /-- A property computes its value and stores none. -/
  | missingStorageSlot
  /-- A type is marked as a section but is no class of the model. -/
  | nestOnValueType
  /-- The marker of a model names no wrapper. -/
  | missingWrapperName
deriving DecidableEq, Repr

namespace DiagnosticKind

/-- How serious diagnostics of a kind are. -/
def severity : DiagnosticKind → Severity
  | deferredSymbol => .info
  | missingStorageSlot | nestOnValueType => .warning
  | invalidFieldShape | illegalSelfReference | missingWrapperName => .error

/-- The name of a kind in messages and the log. -/
def word : DiagnosticKind → String
  | deferredSymbol => "deferred-symbol"
  | invalidFieldShape => "invalid-field-shape"
  | illegalSelfReference => "illegal-self-reference"
  | missingStorageSlot => "missing-storage-slot"
  | nestOnValueType => "nest-on-value-type"
  | missingWrapperName => "missing-wrapper-name"

/-- All kinds. -/
def all : List DiagnosticKind :=
  [deferredSymbol, invalidFieldShape, illegalSelfReference, missingStorageSlot, nestOnValueType,
    missingWrapperName]

/-- The kind of a name. -/
def ofWord? (word : String) : Option DiagnosticKind := all.find? (·.word == word)

end DiagnosticKind

/-- A message about a declaration or property. -/
structure Diagnostic where
  kind : DiagnosticKind
  /-- The qualified name of the declaration, or of the property behind its owner's name. -/
  symbol : String
  message : String
deriving DecidableEq, Repr

namespace Diagnostic

/-- How serious a diagnostic is. -/
def severity (d : Diagnostic) : Severity := d.kind.severity

/-- The text of a diagnostic. -/
def text (d : Diagnostic) : String := d.symbol ++ ": " ++ d.message ++ " [" ++ d.kind.word ++ "]"

/-- The event that logs a diagnostic. -/
def event (d : Diagnostic) : Event where
  level := d.severity.level
  reporter := .diagnostic
  message := d.message
  details := [("kind", Text.quoted d.kind.word), ("symbol", d.symbol)]

/-- How many diagnostics are errors. -/
def errorCount (ds : List Diagnostic) : Nat := ds.countP (·.severity = .error)

/-- The severity of the most serious diagnostic. -/
def worst? : List Diagnostic → Option Severity
  | [] => none
  | d :: ds => some (ds.foldl (fun s d => s.max d.severity) d.severity)

end Diagnostic

end WrapperGen
