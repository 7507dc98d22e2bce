import WrapperGen.Run

/-!
# The program

What the program prints and how it ends, as one script. The log is kept by the player of the script;
which part of it is shown depends on a filter in the environment.
-/

namespace WrapperGen.Program

/-- How the program ends. -/
structure Ending where
  exitCode : Nat
  output : String := ""
  /-- The message of a failure and of what it goes back to. -/
  report : List String := []
  /-- The mistake in the arguments. -/
  mistake : Option CommandLine.UsageError := none
deriving DecidableEq, Repr

/-- The end of a program that has nothing to generate. -/
def endingOfStop : CommandLine.Stop → Ending
  | .help true => { exitCode := 0, output := CommandLine.fullHelp }
  | .help false => { exitCode := 0, output := CommandLine.shortHelp }
  | .version => { exitCode := 0, output := CommandLine.versionText }
  | .mistake e => { exitCode := 2, mistake := some e }

/-- The end of a program that ran. -/
def endingOfRun : Except Failure RoundOutcome → Ending
  | .ok _ => { exitCode := 0 }
  | .error e => { exitCode := 1, report := e.message :: e.causes }

/-- Loads the settings and runs the generator. -/
def perform (c : CommandLine) (environment : Environment.Variables) (process : String) :
    Script (Except Failure RoundOutcome) := do
  match ← Settings.load c environment with
  | .error e => return .error (.settings e)
  | .ok settings => Run.run settings process

/-- The whole program. -/
def run (arguments : List String) (environment : Environment.Variables) (process : String) :
    Script Ending :=
  match CommandLine.read arguments with
  | .error stop => pure (endingOfStop stop)
  | .ok c => do
    let result ← perform c environment process
    return endingOfRun result

/-- The filter of the log that a variable is set to, everything from information upwards if there is
none that can be understood. Without any directive in it, only errors are shown. -/
def logFilter (setting : Option String) : Filter :=
  match setting.bind Filter.ofText with
  | none => [⟨"", Level.info.depth⟩]
  | some [] => [⟨"", Level.error.depth⟩]
  | some filter => filter

end WrapperGen.Program
