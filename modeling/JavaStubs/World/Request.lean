import JavaStubs.Path
import JavaStubs.Text.Hex
import JavaStubs.Text.OsText

/-!
# Requests

What a procedure asks of the world around it: operations on files, one run of the compiler, one
archive, and an identifier that no other run has. An identifier is made of sixteen random bytes:
thirty-two lower-case digits in five groups, of which two say what kind of identifier it is.
-/

namespace JavaStubs

/-- Variables and their values. No name occurs twice. -/
structure Environment where
  entries : List (String × OsText)
  deriving DecidableEq, Repr

namespace Environment

def empty : Environment := ⟨[]⟩

def get? (env : Environment) (name : String) : Option OsText := List.lookup name env.entries

/-- The value of a variable that is set to text. -/
def text? (env : Environment) (name : String) : Option String :=
  (env.get? name).bind OsText.toString?

/-- Sets a variable, in place of any value that it had. -/
def set (env : Environment) (name : String) (value : OsText) : Environment :=
  ⟨env.entries.filter (fun v => v.1 ≠ name) ++ [(name, value)]⟩

/-- No variable can hold a NUL character. -/
def isValid (env : Environment) : Bool :=
  env.entries.all fun v => !v.2.contains (.char '\x00')

end Environment

/-- The compiler to run: its program, if one was found, and the variables it finds set. -/
structure Compiler where
  program? : Option Path
  environment : Environment
  deriving DecidableEq, Repr

structure CompileJob where
  compiler : Compiler
  sources : List Path
  classpath : List Path
  outputDir : Path
  deriving DecidableEq, Repr

/-- Paths in one text, with colons between them. -/
def joinPaths (paths : List Path) : Except String OsText :=
  if paths.any fun p => p.text.contains (.char ':') then
    .error "path segment contains separator `:`"
  else .ok (Text.join [.char ':'] (paths.map Path.text))

/-- The arguments that tell the compiler what to do. -/
def CompileJob.arguments (job : CompileJob) : Except String (List OsText) := do
  let classpath ←
    if job.classpath.isEmpty then pure []
    else do pure [OsText.ofString "-cp", ← joinPaths job.classpath]
  return [OsText.ofString "-encoding", OsText.ofString "US-ASCII", OsText.ofString "-d",
    job.outputDir.text] ++ classpath ++ job.sources.map Path.text

/-- How a compiler run ended and what it printed. -/
structure CompileReport where
  exitCode : Int
  diagnostics : String
  deriving DecidableEq, Repr

/-- The compiler accepted the sources exactly if it ended with code zero. -/
def CompileReport.succeeded (r : CompileReport) : Bool := r.exitCode = 0

structure ArchiveEntry where
  path : String
  bytes : List UInt8
  deriving DecidableEq, Repr

/-- An archive to be written: the attributes of its manifest, and its entries. -/
structure ArchiveJob where
  destination : Path
  attributes : List (String × String)
  entries : List ArchiveEntry
  deriving DecidableEq, Repr

inductive Request
  /-- Makes a directory and every missing directory above it. -/
  | createDirAll (dir : Path)
  /-- Opens a file for writing, empty. -/
  | create (file : Path)
  /-- Writes to the end of a file that was opened. -/
  | write (file : Path) (bytes : List UInt8)
  /-- Makes sure that all that was written has reached the file. -/
  | flush (file : Path)
  | read (file : Path)
  | pathExists (path : Path)
  | isDir (path : Path)
  /-- Whether a path leads to a regular file. -/
  | isFile (path : Path)
  /-- Whether a path leads to a regular file that may be run. -/
  | isProgram (path : Path)
  | removeFile (file : Path)
  /-- Removes a directory with everything in it. -/
  | removeDirAll (dir : Path)
  | compile (job : CompileJob)
  | archive (job : ArchiveJob)
  | freshId
  deriving DecidableEq, Repr

namespace Request

/-- What the world answers. A failed operation answers with the text of its failure. -/
abbrev Answer : Request → Type
  | createDirAll _ | create _ | write _ _ | flush _ | removeFile _ | removeDirAll _ | archive _ =>
    Except String Unit
  | read _ => Except String (List UInt8)
  | pathExists _ | isDir _ | isFile _ | isProgram _ => Bool
  | compile _ => Except String CompileReport
  | freshId => String

end Request

namespace Identifier

/-- Sets the digits that name the kind: random, and of the usual layout. -/
def marked (bytes : List UInt8) : List UInt8 :=
  bytes.mapIdx fun i b =>
    if i = 6 then b % 16 + 64 else if i = 8 then b % 64 + 128 else b

/-- The digits of some bytes in groups of the given lengths. -/
def groups : List Nat → List UInt8 → List (List Char)
  | [], _ => []
  | n :: rest, bytes => Text.hexOfBytes (bytes.take n) :: groups rest (bytes.drop n)

def ofBytes (bytes : List UInt8) : String :=
  "-".intercalate ((groups [4, 2, 2, 2, 6] (marked bytes)).map String.ofList)

end Identifier
end JavaStubs
