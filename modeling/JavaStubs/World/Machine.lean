import JavaStubs.Build.Command
import JavaStubs.Unix.Process

/-!
# A world with a machine

Requests are answered as an operating system answers them, on a disk with a working directory and
with programs that can be run as compilers.
-/

namespace JavaStubs

open Unix

namespace Machine

def bytesOf (p : Path) : List UInt8 := OsText.toBytes p.text

/-- The answer to an operation that changes the disk, and the disk afterwards. -/
def changing (d : Disk) : Except OsError Disk → Except String Unit × Disk
  | .ok d => (.ok (), d)
  | .error e => (.error e.message, d)

/-- Text that is displayed, with a replacement character for whatever is not text. -/
def displayed (bytes : List UInt8) : String := OsText.display (OsText.ofBytes bytes)

/-- Runs the compiler. What it printed are its complaints, and then its output. -/
def compile (d : Disk) (job : CompileJob) : Except String CompileReport × Disk :=
  match job.compiler.program?, job.arguments with
  | none, _ => (.error "unable to locate 'javac'; set IMPLEMENT_JAVAC or JAVA_HOME", d)
  | some _, .error e => (.error e, d)
  | some program, .ok args =>
    let (result, d) :=
      spawn d job.compiler.environment (bytesOf program) (args.map OsText.toBytes)
    (result.map fun ended =>
      { exitCode := match ended.code? with
          | some n => n
          | none => -1
        diagnostics := displayed ended.errors ++ displayed ended.output }, d)

/-- Writes an archive with a manifest in front. What a failed attempt leaves is removed. -/
def archive (d : Disk) (job : ArchiveJob) : Except String Unit × Disk :=
  let manifest : ArchiveEntry :=
    ⟨manifestPath, Text.Utf8.bytesOfString (manifestText job.attributes)⟩
  let path := bytesOf job.destination
  match d.writeArchive path (manifest :: job.entries) with
  | .ok d => (.ok (), d)
  | .error e =>
    (.error e.message, match d.removeFile path with
      | .ok d => d
      | .error _ => d)

/-- Appends to a file that was opened. -/
def write (d : Disk) (p : Path) (bytes : List UInt8) : Except String Unit × Disk :=
  match d.resolve (bytesOf p) with
  | .ok spot => (.ok (), d.append spot.place bytes)
  | .error e => (.error e.message, d)

def systemDirs : List String :=
  ["/bin", "/dev", "/etc", "/home", "/root", "/tmp", "/usr", "/usr/bin", "/var", "/var/tmp"]

/-- The programs of every machine; the shell is one of them. -/
def systemPrograms : List String := "sh" :: Utility.names

/-- The names in a path from the root. -/
def placeOf (path : List UInt8) : Place := (Text.split Disk.slashByte path).filter (· ≠ [])

def placeOfString (path : String) : Place := placeOf (Text.Utf8.bytesOfString path)

/-- Puts a node at a place, and directories at the places above it that are free. -/
def install (d : Disk) (place : Place) (node : Node) : Disk :=
  let above := (List.range place.length).map place.take
  let d := above.foldl (fun d p => if (d.at? p).isSome then d else d.put p .directory) d
  d.put place node

/-- A machine with nothing but its system, and an empty working directory. -/
def fresh : Disk :=
  let here := placeOfString "/tmp/work"
  let d := systemDirs.foldl (fun d dir => d.put (placeOfString dir) .directory)
    (⟨[], here⟩ : Disk)
  let d := d.put (placeOfString "/dev/null") .sink
  let d := ["/bin/", "/usr/bin/"].foldl (fun d dir =>
    systemPrograms.foldl (fun d name => d.put (placeOfString (dir ++ name)) (.program name)) d) d
  d.put here .directory

/-- What stands below the working directory, with the names that lead there. -/
def belowHere (d : Disk) : List (Place × Node) :=
  (d.nodes.filter fun n => d.here.isPrefixOf n.1 && n.1 ≠ d.here).map fun n =>
    (n.1.drop d.here.length, n.2)

end Machine

open Machine

/-- The world of a machine on which `id` is the identifier of the run. -/
def machineWorld (id : String) : World Disk
  | .createDirAll p, d =>
    let (result, d) := d.makeDirs p
    (result.mapError OsError.message, d)
  | .create p, d => changing d ((d.openFile true (bytesOf p)).map (·.2))
  | .write p bytes, d => write d p bytes
  | .flush _, d => (.ok (), d)
  | .read p, d => ((d.read (bytesOf p)).mapError OsError.message, d)
  | .pathExists p, d => (d.isThere (bytesOf p), d)
  | .isDir p, d => (d.isDirectory (bytesOf p), d)
  | .isFile p, d => (d.check Node.isFile (bytesOf p), d)
  | .isProgram p, d => (d.check (fun n => n.isFile && n.isProgram) (bytesOf p), d)
  | .removeFile p, d => changing d (d.removeFile (bytesOf p))
  | .removeDirAll p, d =>
    if d.isThere (bytesOf p) then changing d (d.removeDirectory (bytesOf p)) else (.ok (), d)
  | .compile job, d => compile d job
  | .archive job, d => archive d job
  | .freshId, d => (id, d)

end JavaStubs
