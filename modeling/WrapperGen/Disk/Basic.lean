import WrapperGen.Disk.Path

/-!
# Files and directories

The state of a file system without links: which places hold a file or a directory. The root is
always a directory. Operations follow a path segment by segment and fail the way the operating
system does, with the cause it reports first.
-/

namespace WrapperGen

/-! ## Causes of failure -/

/-- Why an operation on files failed. -/
inductive IoCause where
  | notFound
  | notADirectory
  | isADirectory
  | nameTooLong
  | alreadyExists
  /-- The bytes of a file are no text. -/
  | notText
  /-- A path that should name a file does not. -/
  | noFileName (subject : String)
  /-- Anything else, in the words of the system. -/
  | other (message : String)
deriving DecidableEq, Repr

/-- The text of a cause. -/
def IoCause.message : IoCause → String
  | .notFound => "No such file or directory (os error 2)"
  | .notADirectory => "Not a directory (os error 20)"
  | .isADirectory => "Is a directory (os error 21)"
  | .nameTooLong => "File name too long (os error 36)"
  | .alreadyExists => "File exists (os error 17)"
  | .notText => "stream did not contain valid UTF-8"
  | .noFileName subject => subject ++ " path has no file name"
  | .other message => message

/-- A failed operation and the path it was about. -/
structure IoError where
  path : Path
  cause : IoCause
deriving DecidableEq, Repr

/-- The message of a failed operation. -/
def IoError.message (e : IoError) : String :=
  "I/O error at " ++ e.path.text ++ ": " ++ e.cause.message

/-! ## What is stored -/

/-- The content of a file: a text, or bytes that are none. -/
inductive Content where
  | text (s : String)
  | binary (bytes : List UInt8)
deriving DecidableEq, Repr, Inhabited

/-- The content that some bytes are. -/
def Content.ofBytes (bytes : List UInt8) : Content :=
  match String.fromUTF8? ⟨bytes.toArray⟩ with
  | some s => .text s
  | none => .binary bytes

/-- What a place holds. -/
inductive Entry where
  | directory
  | file (content : Content)
deriving DecidableEq, Repr

/-- A place as the names that lead to it from the root. -/
abbrev Location := List String

/-- A file system, and the directory that relative paths start from. -/
structure Disk where
  entries : List (Location × Entry) := []
  workingDirectory : Location := []
deriving Repr, Inhabited

namespace Disk

/-- What is at a place. -/
def at? (d : Disk) (place : Location) : Option Entry :=
  if place = [] then some .directory else d.entries.lookup place

/-- Whether a place is a directory. -/
def isDirectoryAt (d : Disk) (place : Location) : Bool := d.at? place == some .directory

/-- The disk with nothing at a place. -/
def clear (d : Disk) (place : Location) : Disk :=
  { d with entries := d.entries.filter fun e => e.1 ≠ place }

/-- The disk with something new at a place. -/
def put (d : Disk) (place : Location) (entry : Entry) : Disk :=
  { d with entries := (d.entries.filter fun e => e.1 ≠ place) ++ [(place, entry)] }

/-! ## Following paths -/

/-- Whether a name is longer than the system allows. -/
def isTooLong (name : String) : Bool := 255 < name.utf8ByteSize

/-- Follows segments from a place. Every place that a segment starts from has to be a directory. -/
def follow (d : Disk) (place : Location) : List String → Except IoCause Location
  | [] => .ok place
  | segment :: rest =>
    if !d.isDirectoryAt place then .error .notADirectory
    else if segment = "" ∨ segment = "." then d.follow place rest
    else if segment = ".." then d.follow place.dropLast rest
    else if isTooLong segment then .error .nameTooLong
    else if (d.at? (place ++ [segment])).isNone then .error .notFound
    else d.follow (place ++ [segment]) rest

/-- Where the segments of a path start. -/
def start (d : Disk) (p : Path) : Location := if p.isAbsolute then [] else d.workingDirectory

/-- The place a path leads to, where something has to be. -/
def locate (d : Disk) (p : Path) : Except IoCause Location :=
  if p.text = "" then .error .notFound else d.follow (d.start p) p.segments

/-- The directory a path leads to. -/
def locateDirectory (d : Disk) (p : Path) : Except IoCause Location := do
  let place ← d.locate p
  if d.isDirectoryAt place then return place else throw .notADirectory

/-- The place of a name in a directory, whether or not something is there. -/
def child (d : Disk) (directory : Path) (name : String) : Except IoCause Location := do
  let place ← d.locateDirectory directory
  if isTooLong name then throw .nameTooLong else return place ++ [name]

/-- The content of the file at a place. -/
def contentAt (d : Disk) (place : Location) : Except IoCause Content :=
  match d.at? place with
  | none => .error .notFound
  | some .directory => .error .isADirectory
  | some (.file content) => .ok content

/-! ## Operations -/

/-- Whether a path leads to a directory. -/
def isDirectory (d : Disk) (p : Path) : Bool :=
  match d.locate p with
  | .ok place => d.isDirectoryAt place
  | .error _ => false

/-- Whether a path leads to a file. -/
def isFile (d : Disk) (p : Path) : Bool :=
  match d.locate p with
  | .ok place => !d.isDirectoryAt place
  | .error _ => false

/-- The text that a file holds. -/
def textOf : Content → Except IoCause String
  | .text s => .ok s
  | .binary _ => .error .notText

/-- The content of the file a path leads to. -/
def read (d : Disk) (p : Path) : Except IoCause Content := do
  let place ← d.locate p
  d.contentAt place

/-- The name that a path gives to something new, unless the path ends in dots. -/
def newName? (p : Path) : Option String :=
  match p.lastSegment? with
  | none => none
  | some name => if name = "." ∨ name = ".." then none else some name

/-- Creates a directory in a directory that exists. -/
def makeDirectory (d : Disk) (p : Path) : Except IoCause Disk :=
  match newName? p with
  | none => do
    let _ ← d.locateDirectory p
    throw .alreadyExists
  | some name => do
    let place ← d.child p.directory name
    if (d.at? place).isSome then throw .alreadyExists
    else return d.put place .directory

/-- Creates a file without content, or empties the one that is there. -/
def createFile (d : Disk) (directory : Path) (name : String) : Except IoCause Disk := do
  let place ← d.child directory name
  if d.isDirectoryAt place then throw .isADirectory
  else return d.put place (.file (.text ""))

/-- Gives a file new content. -/
def fill (d : Disk) (directory : Path) (name : String) (content : Content) :
    Except IoCause Disk := do
  let place ← d.child directory name
  let _ ← d.contentAt place
  return d.put place (.file content)

/-- Moves a file to another name in its directory, instead of any file of that name. -/
def rename (d : Disk) (directory : Path) (source target : String) : Except IoCause Disk := do
  let old ← d.child directory source
  let new ← d.child directory target
  let content ← d.contentAt old
  if d.isDirectoryAt new then throw .isADirectory
  else return (d.clear old).put new (.file content)

/-- Removes a file. -/
def removeFile (d : Disk) (directory : Path) (name : String) : Except IoCause Disk := do
  let place ← d.child directory name
  let _ ← d.contentAt place
  return d.clear place

/-- Writes the file a path leads to, in a directory that exists. A path that can only lead to
a directory is refused. -/
def write (d : Disk) (p : Path) (content : Content) : Except IoCause Disk :=
  match newName? p with
  | none => do
    let _ ← d.locateDirectory p
    throw .isADirectory
  | some name => do
    if p.endsWithSlash then
      let _ ← d.locateDirectory p.directory
      throw .isADirectory
    let d ← d.createFile p.directory name
    d.fill p.directory name content

/-- Removes what a path leads to, with everything in it. -/
def removeAll (d : Disk) (p : Path) : Except IoCause Disk := do
  let place ← d.locate p
  return { d with entries := d.entries.filter fun e => !place.isPrefixOf e.1 }

/-- Everything below a place, with the names that lead there from the place. -/
def below (d : Disk) (place : Location) : List (Location × Entry) :=
  d.entries.filterMap fun (location, entry) =>
    if place.isPrefixOf location && location ≠ place then some (location.drop place.length, entry)
    else none

end Disk

end WrapperGen
