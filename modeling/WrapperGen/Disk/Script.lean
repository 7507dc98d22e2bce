import WrapperGen.Disk.Basic
import WrapperGen.Log

/-!
# Scripts

What the program does with files is described by a script: a tree of calls to the system, each with
one continuation for every answer, and of events to log. A script does nothing by itself. It can be
played on a model of a disk, where any call may be made to fail, or on the files of a real system.

A call that fails leaves the disk as it was, with one exception: filling a file may stop halfway.
-/

namespace WrapperGen

/-! ## Calls -/

/-- A call to the system. -/
inductive DiskCall where
  /-- The directory that relative paths start from. -/
  | workingDirectory
  | isFile (path : Path)
  | isDirectory (path : Path)
  /-- Reads the text of a file. -/
  | readFile (path : Path)
  /-- Makes sure that a path leads to a directory. -/
  | openDirectory (path : Path)
  | makeDirectory (path : Path)
  /-- Reads the text of a file in a directory. -/
  | readText (directory : Path) (name : String)
  /-- Creates or empties a file in a directory. -/
  | createFile (directory : Path) (name : String)
  /-- Writes all of a text to a file that was just created, and waits until it is stored. -/
  | fill (directory : Path) (name : String) (text : String)
  | rename (directory : Path) (source target : String)
  | removeFile (directory : Path) (name : String)
deriving DecidableEq, Repr

/-- The answer to a call. -/
@[reducible] def DiskCall.Answer : DiskCall → Type
  | workingDirectory => Path
  | isFile _ => Bool
  | isDirectory _ => Bool
  | readFile _ => Except IoCause String
  | openDirectory _ => Except IoCause Unit
  | makeDirectory _ => Except IoCause Unit
  | readText _ _ => Except IoCause String
  | createFile _ _ => Except IoCause Unit
  | fill _ _ _ => Except IoCause Unit
  | rename _ _ _ => Except IoCause Unit
  | removeFile _ _ => Except IoCause Unit

/-! ## Scripts -/

/-- What to do with the system before there is a result. -/
inductive Script (α : Type) where
  | done (result : α)
  | note (event : Event) (next : Script α)
  | call (c : DiskCall) (next : c.Answer → Script α)

namespace Script

variable {α β : Type}

/-- One script after another. -/
def bind : Script α → (α → Script β) → Script β
  | done result, f => f result
  | note event next, f => note event (next.bind f)
  | call c next, f => call c fun answer => (next answer).bind f

instance : Monad Script where
  pure := done
  bind := bind

/-- Makes a single call. -/
def ask (c : DiskCall) : Script c.Answer := call c done

/-- Logs an event. -/
def log (event : Event) : Script Unit := note event (done ())

/-- Logs events in order. -/
def logAll : List Event → Script Unit
  | [] => done ()
  | event :: events => note event (logAll events)

end Script

/-! ## Playing a script on a disk -/

/-- A failure that the system makes of a call, and what it leaves of a file
that was being filled. -/
structure DiskFault where
  cause : IoCause
  remains : Content := .text ""
deriving DecidableEq, Repr

/-- The disk after an operation, or unchanged with the cause why it failed. -/
def Disk.apply (d : Disk) (after : Except IoCause Disk) : Except IoCause Unit × Disk :=
  match after with
  | .ok d => (.ok (), d)
  | .error cause => (.error cause, d)

/-- The answer to a call that succeeds if it can. -/
def Disk.answer (d : Disk) : (c : DiskCall) → c.Answer × Disk
  | .workingDirectory => (⟨"/" ++ Text.joined "/" d.workingDirectory⟩, d)
  | .isFile path => (d.isFile path, d)
  | .isDirectory path => (d.isDirectory path, d)
  | .readFile path => (d.read path >>= Disk.textOf, d)
  | .openDirectory path => (d.locateDirectory path >>= fun _ => pure (), d)
  | .makeDirectory path => d.apply (d.makeDirectory path)
  | .readText directory name => (d.child directory name >>= d.contentAt >>= Disk.textOf, d)
  | .createFile directory name => d.apply (d.createFile directory name)
  | .fill directory name text => d.apply (d.fill directory name (.text text))
  | .rename directory source target => d.apply (d.rename directory source target)
  | .removeFile directory name => d.apply (d.removeFile directory name)

/-- The answer to a call that the system makes fail. Where a path leads is never in doubt. -/
def Disk.answerFailing (d : Disk) (fault : DiskFault) : (c : DiskCall) → c.Answer × Disk
  | .workingDirectory => d.answer .workingDirectory
  | .isFile path => d.answer (.isFile path)
  | .isDirectory path => d.answer (.isDirectory path)
  | .readFile _ => (.error fault.cause, d)
  | .openDirectory _ => (.error fault.cause, d)
  | .makeDirectory _ => (.error fault.cause, d)
  | .readText _ _ => (.error fault.cause, d)
  | .createFile _ _ => (.error fault.cause, d)
  | .fill directory name _ =>
    (.error fault.cause, (d.apply (d.fill directory name fault.remains)).2)
  | .rename _ _ _ => (.error fault.cause, d)
  | .removeFile _ _ => (.error fault.cause, d)

/-- A disk with the failures that its next calls meet, one for each call and none beyond the list,
and the events logged so far. -/
structure Machine where
  disk : Disk
  faults : List (Option DiskFault) := []
  events : List Event := []

/-- Makes a call on a machine. -/
def Machine.answer (m : Machine) (c : DiskCall) : c.Answer × Machine :=
  match m.faults with
  | some fault :: faults =>
    let (answer, disk) := m.disk.answerFailing fault c
    (answer, { m with disk := disk, faults := faults })
  | none :: faults =>
    let (answer, disk) := m.disk.answer c
    (answer, { m with disk := disk, faults := faults })
  | [] =>
    let (answer, disk) := m.disk.answer c
    (answer, { m with disk := disk })

/-- Plays a script on a machine. -/
def Script.play {α : Type} : Script α → Machine → α × Machine
  | done result, m => (result, m)
  | note event next, m => next.play { m with events := m.events ++ [event] }
  | call c next, m =>
    let (answer, m) := m.answer c
    (next answer).play m

/-! ## Directories -/

/-- Creates the directories in which a directory is to be, from the outside inwards, then the
directory. A directory that is there already is no failure. -/
def Script.makeDirectories : List Path → Script (Except IoCause Unit)
  | [] => pure (.ok ())
  | path :: around => do
    match ← ask (.makeDirectory path) with
    | .ok () => return .ok ()
    | .error .notFound =>
      match ← makeDirectories around with
      | .error cause => return .error cause
      | .ok () =>
        match ← ask (.makeDirectory path) with
        | .ok () => return .ok ()
        | .error cause => if ← ask (.isDirectory path) then return .ok () else return .error cause
    | .error cause => if ← ask (.isDirectory path) then return .ok () else return .error cause

/-- Opens a directory, creating it and those around it when it does not exist. -/
def Script.ensureDirectory (path : Path) : Script (Except IoError Unit) := do
  match ← ask (.openDirectory path) with
  | .ok () => return .ok ()
  | .error .notFound =>
    match ← makeDirectories path.outwards with
    | .error cause => return .error ⟨path, cause⟩
    | .ok () =>
      match ← ask (.openDirectory path) with
      | .ok () => return .ok ()
      | .error cause => return .error ⟨path, cause⟩
  | .error cause => return .error ⟨path, cause⟩

end WrapperGen
