import WrapperGen.Digest.Sha256
import WrapperGen.Disk.Script
import WrapperGen.Wrapper.Generate

/-!
# Storing generated files

A file is replaced by filling a temporary one beside it and renaming that, so nobody ever
sees half of it, and a file that already has the content is not touched. Next to every source
file goes a record of what it was made from, with a digest of its content, for build tools
that work incrementally.
-/

namespace WrapperGen

/-! ## Records -/

/-- What a build tool has to know about a generated file. -/
structure DependencyRecord where
  /-- The path of the generated file. -/
  output : String := ""
  sources : List String := []
  aggregating : Bool := false
  /-- The digest of the content. -/
  sha256 : String := ""
deriving DecidableEq, Repr, Inhabited

namespace DependencyRecord

/-- The fields of the written form. -/
def fields : List (Json.Field DependencyRecord) := [
  .of "output" true Json.decodePath fun s r => { r with output := s },
  .of "sources" true (Json.decodeList Json.decodePath) fun ps r => { r with sources := ps },
  .of "aggregating" true Json.decodeBool fun b r => { r with aggregating := b },
  .of "sha256" true Json.decodeString fun s r => { r with sha256 := s }]

/-- Decodes a record. -/
def decode : Json.Decoder DependencyRecord := Json.decodeRecord "DependencyRecord" fields {}

/-- The JSON value of a record. -/
def toJson (r : DependencyRecord) : Json :=
  .object [("output", .string r.output), ("sources", .array (r.sources.map .string)),
    ("aggregating", .bool r.aggregating), ("sha256", .string r.sha256)]

/-- The text of a record. -/
def text (r : DependencyRecord) : String := r.toJson.spreadText

end DependencyRecord

/-! ## Replacing a file -/

/-- Whether a file had to be written. -/
inductive WriteStatus where
  | written
  | unchanged
deriving DecidableEq, Repr

/-- The name of the temporary file beside a file; `process` keeps programs that run
at the same time apart. -/
def temporaryName (name process : String) : String := "." ++ name ++ "." ++ process ++ ".tmp"

/-- Removes the temporary file after a failure; if that fails too, it is only logged. -/
def discardTemporary (directory : Path) (temporary : String) : Script Unit := do
  match ← Script.ask (.removeFile directory temporary) with
  | .ok () => return ()
  | .error cause => Script.log {
      level := .debug
      reporter := .output
      message := "could not remove temporary file"
      details := [("temp", Text.quoted temporary), ("error", cause.message)] }

/-- Creates and fills the temporary file. -/
def fillTemporary (directory : Path) (temporary content : String) :
    Script (Except IoCause Unit) := do
  match ← Script.ask (.createFile directory temporary) with
  | .error cause => return .error cause
  | .ok () => Script.ask (.fill directory temporary content)

/-- Replaces a file of a directory through a temporary file. `path` is how
messages name the file. -/
def replaceFile (process : String) (path directory : Path) (name content : String) :
    Script (Except IoError WriteStatus) := do
  let temporary := temporaryName name process
  match ← fillTemporary directory temporary content with
  | .error cause =>
    discardTemporary directory temporary
    return .error ⟨directory.join ⟨temporary⟩, cause⟩
  | .ok () =>
    match ← Script.ask (.rename directory temporary name) with
    | .error cause =>
      discardTemporary directory temporary
      return .error ⟨path, cause⟩
    | .ok () => return .ok .written

/-- Makes a file have some content, creating the directories around it when they are missing. -/
def writeAtomic (process : String) (path : Path) (content : String) :
    Script (Except IoError WriteStatus) :=
  match path.fileName? with
  | none => pure (.error ⟨path, .noFileName "output"⟩)
  | some name => do
    match ← Script.ensureDirectory path.directory with
    | .error e => return .error e
    | .ok () =>
      match ← Script.ask (.readText path.directory name) with
      | .ok existing =>
        if existing = content then return .ok .unchanged
        else replaceFile process path path.directory name content
      | .error _ => replaceFile process path path.directory name content

/-! ## Files with their records -/

/-- Where generated files go. -/
structure OutputRoots where
  sources : Path
  records : Path
  /-- The mark of the running program in names of temporary files. -/
  process : String
deriving DecidableEq, Repr

/-- A stored file. -/
structure WrittenFile where
  path : Path
  recordPath : Path
  record : DependencyRecord
  /-- Whether the source file itself had to be written. -/
  status : WriteStatus
deriving DecidableEq, Repr

namespace OutputRoots

/-- Where the source of a file goes. -/
def sourcePath (roots : OutputRoots) (f : GeneratedFile) : Path := roots.sources.join f.relativePath

/-- Where the record of a file goes. -/
def recordPath (roots : OutputRoots) (f : GeneratedFile) : Path := roots.records.join ⟨f.recordName⟩

/-- The record of a file. -/
def recordOf (roots : OutputRoots) (f : GeneratedFile) : DependencyRecord where
  output := (roots.sourcePath f).text
  sources := f.sources
  aggregating := f.aggregating
  sha256 := Sha256.hexDigest f.content

/-- The event of storing a file. -/
def storedEvent (path : Path) : WriteStatus → Event
  | .written =>
      { level := .info, reporter := .output, message := "wrote wrapper",
        details := [("path", path.text)] }
  | .unchanged =>
      { level := .debug, reporter := .output, message := "wrapper unchanged",
        details := [("path", path.text)] }

/-- Stores a file and then its record. -/
def store (roots : OutputRoots) (f : GeneratedFile) : Script (Except IoError WrittenFile) := do
  match ← writeAtomic roots.process (roots.sourcePath f) f.content with
  | .error e => return .error e
  | .ok status =>
    let record := roots.recordOf f
    match ← writeAtomic roots.process (roots.recordPath f) (record.text ++ "\n") with
    | .error e => return .error e
    | .ok _ =>
      Script.log (storedEvent (roots.sourcePath f) status)
      return .ok ⟨roots.sourcePath f, roots.recordPath f, record, status⟩

end OutputRoots

end WrapperGen
