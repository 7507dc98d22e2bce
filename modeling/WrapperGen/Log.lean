import WrapperGen.Text.Joined

/-!
# The log

Steps do not print; they return the events they would report. A filter decides by level and by the
part of the program which of them become lines.
-/

namespace WrapperGen

/-- How much an event matters. -/
inductive Level where
  | error
  | warn
  | info
  | debug
  | trace
deriving DecidableEq, Repr

namespace Level

/-- The word for the level at the start of a line. -/
def word : Level → String
  | .error => "ERROR"
  | .warn => "WARN"
  | .info => "INFO"
  | .debug => "DEBUG"
  | .trace => "TRACE"

/-- How far down the scale the level is; filters admit everything up to a depth. -/
def depth : Level → Nat
  | .error => 1
  | .warn => 2
  | .info => 3
  | .debug => 4
  | .trace => 5

end Level

/-- The part of the program that reports an event. -/
inductive Reporter where
  | symbolTable
  | scan
  | processor
  | diagnostic
  | output
  | run
deriving DecidableEq, Repr

/-- The name of a part in the log and in filters. -/
def Reporter.target : Reporter → String
  | .symbolTable => "kowo_config::symbols::table"
  | .scan => "kowo_config::scan"
  | .processor => "kowo_config::processor"
  | .diagnostic => "kowo_config::diagnostic"
  | .output => "kowo_config::output"
  | .run => "kowo_gen::run"

/-- Something that was done or noticed, with named details as they are shown. -/
structure Event where
  level : Level
  reporter : Reporter
  message : String
  details : List (String × String) := []
deriving DecidableEq, Repr

/-- The line of an event. -/
def Event.line (e : Event) : String :=
  e.level.word ++ " " ++ e.reporter.target ++ ": "
    ++ Text.joined " " (e.message :: e.details.map fun (name, value) => name ++ "=" ++ value)

/-! ## Filters -/

/-- Admits events down to a depth on the scale of levels, from the parts whose
name begins with `target`. -/
structure Directive where
  target : String
  depth : Nat
deriving DecidableEq, Repr

/-- Directives, of which the one with the longest matching target decides. -/
abbrev Filter := List Directive

/-- The depth that a word for a level, in letters of any case, stands for. -/
def depthOfWord? (word : String) : Option Nat :=
  [("off", 0), ("error", 1), ("warn", 2), ("info", 3), ("debug", 4), ("trace", 5)].lookup
    (String.ofList (word.toList.map Char.toLower))

/-- A directive: a level, a target with a level, or a target alone. -/
def Directive.ofText (text : String) : Option Directive :=
  match Text.parts '=' text with
  | [word] =>
    match depthOfWord? word with
    | some depth => some ⟨"", depth⟩
    | none => some ⟨word, Level.trace.depth⟩
  | [target, word] => (depthOfWord? word).map fun depth => ⟨target, depth⟩
  | _ => none

/-- The filter that a text describes, directives between commas; nothing if
one is not understood. -/
def Filter.ofText (text : String) : Option Filter :=
  ((Text.parts ',' text).filter (· ≠ "")).mapM Directive.ofText

/-- The more specific of two directives; of equally specific ones the later. -/
def Directive.moreSpecific (a b : Directive) : Directive :=
  if b.target.length < a.target.length then a else b

/-- Whether the filter lets an event through. -/
def Filter.admits (f : Filter) (e : Event) : Bool :=
  let matching := f.filter fun d => d.target.toList.isPrefixOf e.reporter.target.toList
  match matching with
  | [] => false
  | d :: ds => e.level.depth ≤ (ds.foldl Directive.moreSpecific d).depth

/-- The lines of the events that the filter lets through. -/
def Filter.lines (f : Filter) (events : List Event) : List String :=
  (events.filter f.admits).map Event.line

end WrapperGen
