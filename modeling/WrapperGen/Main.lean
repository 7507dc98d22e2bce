import WrapperGen.Program

/-!
# Running on a real system

The calls of a script are made on the files of the system, one by one, and its events are printed to
the standard error as they occur. Nothing is decided here.
-/

namespace WrapperGen.Host

/-! ## Calls -/

/-- The number of a failure, and its words. The system reports some numbers as negative. -/
def codeOf : IO.Error → Option UInt32
  | .noFileOrDirectory _ code _ => some code
  | .inappropriateType _ code _ => some code
  | .invalidArgument _ code _ => some code
  | .alreadyExists _ code _ => some code
  | _ => none

/-- The cause of a failure. -/
def causeOf (e : IO.Error) : IoCause :=
  match (codeOf e).map fun code => if code < 0x80000000 then code else 0 - code with
  | some 2 => .notFound
  | some 17 => .alreadyExists
  | some 20 => .notADirectory
  | some 21 => .isADirectory
  | some 36 => .nameTooLong
  | _ => .other (toString e)

/-- The result of an action, or the cause why it failed. -/
def attempt {α : Type} (action : IO α) : IO (Except IoCause α) := do
  try return .ok (← action) catch e => return .error (causeOf e)

/-- What kind of thing a path leads to. -/
def typeOf (path : Path) : IO (Except IoCause IO.FS.FileType) :=
  attempt do
    let place : IO.FS.DirEntry := ⟨path.text, ""⟩
    return (← place.root.metadata).type

/-- Whether a path leads to a thing of some kind. -/
def leadsTo (type : IO.FS.FileType) (path : Path) : IO Bool := do
  match ← typeOf path with
  | .ok found => return found == type
  | .error _ => return false

/-- The text of a file. -/
def readText (path : String) : IO (Except IoCause String) := do
  match ← attempt (IO.FS.readBinFile path) with
  | .error cause => return .error cause
  | .ok bytes =>
    match String.fromUTF8? bytes with
    | some text => return .ok text
    | none => return .error .notText

/-- The path of a name in a directory. -/
def within (directory : Path) (name : String) : String := (directory.join ⟨name⟩).text

/-- Makes a call. -/
def answer : (c : DiskCall) → IO c.Answer
  | .workingDirectory => do return ⟨toString (← IO.currentDir)⟩
  | .isFile path => leadsTo .file path
  | .isDirectory path => leadsTo .dir path
  | .readFile path => readText path.text
  | .openDirectory path => do
    match ← typeOf path with
    | .ok .dir => return .ok ()
    | .ok _ => return .error .notADirectory
    | .error cause => return .error cause
  | .makeDirectory path => attempt (IO.FS.createDir path.text)
  | .readText directory name => readText (within directory name)
  | .createFile directory name => attempt do let _ ← IO.FS.Handle.mk (within directory name) .write
  | .fill directory name text => attempt (IO.FS.writeFile (within directory name) text)
  | .rename directory source target =>
      attempt (IO.FS.rename (within directory source) (within directory target))
  | .removeFile directory name => attempt (IO.FS.removeFile (within directory name))

/-- Plays a script, printing the events that the filter lets through. -/
def perform {α : Type} (filter : Filter) : Script α → IO α
  | .done result => return result
  | .note event next => do
    if filter.admits event then IO.eprintln event.line
    perform filter next
  | .call c next => do
    let a ← answer c
    perform filter (next a)

/-! ## The process -/

/-- The text before the first occurrence of a character, and the text behind it. -/
def cut (separator : Char) (text : String) : String × String :=
  let (before, after) := text.toList.span (· != separator)
  (String.ofList before, String.ofList (after.drop 1))

/-- The environment of the process. Variables that are no text are left out. -/
def environment : IO Environment.Variables := do
  match ← attempt (IO.FS.readBinFile "/proc/self/environ") with
  | .ok bytes =>
    let entries := (Text.splitAt 0 bytes.data.toList).filterMap fun entry =>
      String.fromUTF8? ⟨entry.toArray⟩
    return (entries.filter (· ≠ "")).map (cut '=')
  | .error _ => return []

/-- The number of the process. -/
def process : IO String := do
  match ← readText "/proc/self/stat" with
  | .ok text => return (cut ' ' text).1
  | .error _ => return "0"

/-- Prints what the program ends with. -/
def conclude (ending : Program.Ending) : IO UInt32 := do
  IO.print ending.output
  match ending.mistake with
  | some mistake => IO.eprintln ("error: " ++ mistake.message ++ "\n\n" ++ CommandLine.usageLine)
  | none => pure ()
  match ending.report with
  | [] => pure ()
  | message :: causes =>
    IO.eprintln ("Error: " ++ message)
    for cause in causes do IO.eprintln ("Caused by: " ++ cause)
  return ending.exitCode.toUInt32

end WrapperGen.Host

open WrapperGen in
/-- The program. -/
def main (arguments : List String) : IO UInt32 := do
  let environment ← WrapperGen.Host.environment
  let process ← WrapperGen.Host.process
  let filter := Program.logFilter (environment.lookup "RUST_LOG")
  let ending ← WrapperGen.Host.perform filter (Program.run arguments environment process)
  WrapperGen.Host.conclude ending
