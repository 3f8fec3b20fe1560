import JavaStubs.Shell.Run

/-!
# Running programs

A program is named by its path, or else looked for in the directories of `PATH`. A file can be run
if its first line names the shell or a utility as its interpreter.
-/

namespace JavaStubs
namespace Unix

open Text Shell

/-- How a process ended. There is no code if it was killed. -/
structure Ended where
  code? : Option Nat
  output : List UInt8
  errors : List UInt8
  deriving DecidableEq, Repr

/-- What a path that can be run leads to. -/
inductive Runnable
  | utility (name : String) (before : List (List Char))
  | script (text : List Char)

def runnable (d : Disk) (path : List UInt8) : Except OsError Runnable := do
  match ← d.stat path with
  | .program name => return .utility name []
  | .file bytes true =>
    match interpreter? (charsOfBytes bytes) with
    | none => .error .unknownFormat
    | some (interpreter, args) =>
      match ← d.stat (bytesOfChars interpreter) with
      | .program "sh" => return .script (charsOfBytes bytes)
      | .program name => return .utility name (args ++ [charsOfBytes path])
      | .file _ true => .error .unknownFormat
      | _ => .error .denied
  | _ => .error .denied

/-- The directories that are searched where `PATH` is not set. -/
def defaultProgramPath : List Char := "/bin:/usr/bin".toList

/-- The paths at which a program may stand. -/
def programPaths (env : Environment) (program : List UInt8) : List (List UInt8) :=
  if program.contains Disk.slashByte then [program]
  else
    let list := ((env.get? "PATH").map OsText.toBytes).getD (bytesOfChars defaultProgramPath)
    (Text.split 58 list).map fun dir => if dir = [] then program else dir ++ 47 :: program

/-- The first path that can be run. Where there is none, a path that is forbidden decides, and else
the last one. -/
def findRunnable (d : Disk) (forbidden : Bool) (last : OsError) :
    List (List UInt8) → Except OsError (List UInt8 × Runnable)
  | [] => .error (if forbidden then .denied else last)
  | path :: rest =>
    match runnable d path with
    | .ok r => .ok (path, r)
    | .error .denied => findRunnable d true .denied rest
    | .error .missing => findRunnable d forbidden .missing rest
    | .error .notDirectory => findRunnable d forbidden .notDirectory rest
    | .error e => .error e

/-- The bound on the nesting of commands and on the rounds of loops. -/
def stepLimit : Nat := 10000

/-- Runs what a path leads to, with nothing to read. -/
def runProcess (d : Disk) (env : Environment) (path : List UInt8) (args : List (List UInt8))
    (what : Runnable) : Ended × Disk :=
  let name := charsOfBytes path
  let args := args.map charsOfBytes
  match what with
  | .utility utility before =>
    let e := Utility.run utility name (before ++ args) [] d
    (⟨some e.status, bytesOfChars e.output, bytesOfChars e.errors⟩, { e.disk with here := d.here })
  | .script text =>
    let start : Session :=
      { disk := d
        script := name
        args := args
        values := env.entries.map fun v =>
          (charsOfBytes (Utf8.bytesOfString v.1), charsOfBytes (OsText.toBytes v.2))
        status := 0
        buffers := [[], []] }
    let (flow, s) := (runScript stepLimit ⟨[], .buffer 0, .buffer 1⟩ text).run start
    (⟨if flow = .killed then none else some (s.status % 256),
      bytesOfChars ((s.buffers[0]?).getD []), bytesOfChars ((s.buffers[1]?).getD [])⟩,
      { s.disk with here := d.here })

/-- Starts a program and waits for its end. -/
def spawn (d : Disk) (env : Environment) (program : List UInt8) (args : List (List UInt8)) :
    Except String Ended × Disk :=
  if (program :: args).any fun text => text.contains 0 then
    (.error "nul byte found in provided data", d)
  else match findRunnable d false .missing (programPaths env program) with
    | .error e => (.error e.message, d)
    | .ok (path, what) =>
      let (ended, d) := runProcess d env path args what
      (.ok ended, d)

end Unix
end JavaStubs
