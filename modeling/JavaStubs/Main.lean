import JavaStubs.CommandLine.Program
import JavaStubs.Unix.Disk
import JavaStubs.World.Request

/-!
# The command line

Requests are answered on the disk of the machine that the program runs on. Programs are not started
from here, so that the compiler and the archive are out of reach.
-/

namespace JavaStubs
namespace Main

open Unix

def variableNames : List String :=
  ["CLASSPATH", "IMPLEMENT_CATALOG", "IMPLEMENT_JAVAC", "IMPLEMENT_SCRATCH_DIR", "JAVA_HOME",
    "PATH", "TMPDIR"]

def environment : IO Environment :=
  variableNames.foldlM (fun env name => do
    match ← IO.getEnv name with
    | some value => return env.set name (OsText.ofString value)
    | none => return env) Environment.empty

/-- The wording of a failed operation. -/
def describe (e : IO.Error) : String :=
  match e with
  | .noFileOrDirectory _ _ _ => OsError.message .missing
  | .permissionDenied _ _ _ => OsError.message .denied
  | .alreadyExists _ _ _ => OsError.message .present
  | .inappropriateType _ _ details =>
    if details = OsError.text .isDirectory then OsError.message .isDirectory
    else OsError.message .notDirectory
  | e => toString e

def attempt {α : Type} (act : IO α) : IO (Except String α) := do
  try return .ok (← act) catch e => return .error (describe e)

def succeeds {α : Type} (act : IO α) : IO Bool := do
  try
    let _ ← act
    return true
  catch _ => return false

def bytesOf (bytes : List UInt8) : ByteArray := ⟨bytes.toArray⟩

def read (path : String) : IO (List UInt8) := return (← IO.FS.readBinFile path).toList

def write (path : String) (bytes : List UInt8) : IO Unit := do
  let file ← IO.FS.Handle.mk path .append
  file.write (bytesOf bytes)

/-- Whether a path leads to a directory, in which there is always the name `.`. -/
def isDir (path : String) : IO Bool := succeeds (IO.FS.Handle.mk (path ++ "/.") .read)

def pathExists (path : String) : IO Bool := succeeds (IO.FS.Handle.mk path .read)

def isFile (path : String) : IO Bool := return (← pathExists path) && !(← isDir path)

def unsupported {α : Type} : Except String α := .error "programs cannot be run from here"

def answer : (q : Request) → IO q.Answer
  | .createDirAll p => attempt (IO.FS.createDirAll p.display)
  | .create p => attempt (IO.FS.writeBinFile p.display (bytesOf []))
  | .write p bytes => attempt (write p.display bytes)
  | .flush _ => return .ok ()
  | .read p => attempt (read p.display)
  | .pathExists p => pathExists p.display
  | .isDir p => isDir p.display
  | .isFile p | .isProgram p => isFile p.display
  | .removeFile p => attempt (IO.FS.removeFile p.display)
  | .removeDirAll p => do
    if ← pathExists p.display then attempt (IO.FS.removeDirAll p.display) else return .ok ()
  | .compile _ => return unsupported
  | .archive _ => return unsupported
  | .freshId => return Identifier.ofBytes (← IO.getRandomBytes 16).toList

end Main
end JavaStubs

/-- Runs the program on the machine's disk. -/
def main (args : List String) : IO UInt32 := do
  let env ← JavaStubs.Main.environment
  let run := JavaStubs.CommandLine.program env (args.map JavaStubs.OsText.ofString)
  let outcome ← run.runIn JavaStubs.Main.answer
  IO.print outcome.output
  return outcome.exitCode.toUInt32
