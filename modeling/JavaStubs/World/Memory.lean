import JavaStubs.World.Procedure

/-!
# A world in memory

A disk of files and directories without a check that parents exist, together with a script that says
which operations fail, what the compiler does and which identifier is handed out. Operations that
change or read the disk are logged before they are tried.
-/

namespace JavaStubs

/-- Files with their bytes, and directories. No two files and no two directories have the same
components. -/
structure MemoryDisk where
  files : List (Path × List UInt8)
  dirs : List Path
  deriving DecidableEq, Repr

namespace MemoryDisk

def empty : MemoryDisk := ⟨[], []⟩

def read? (d : MemoryDisk) (p : Path) : Option (List UInt8) :=
  (d.files.find? fun f => f.1.same p).map (·.2)

def hasFile (d : MemoryDisk) (p : Path) : Bool := (d.read? p).isSome

def hasDir (d : MemoryDisk) (p : Path) : Bool := d.dirs.any fun q => q.same p

/-- Gives a file new bytes, under the path by which it is known already. -/
def put (d : MemoryDisk) (p : Path) (bytes : List UInt8) : MemoryDisk :=
  if d.hasFile p then
    { d with files := d.files.map fun f => if f.1.same p then (f.1, bytes) else f }
  else { d with files := d.files ++ [(p, bytes)] }

def addDir (d : MemoryDisk) (p : Path) : MemoryDisk :=
  if d.hasDir p then d else { d with dirs := d.dirs ++ [p] }

/-- Adds a directory and every directory above it. -/
def addDirs (d : MemoryDisk) (p : Path) : MemoryDisk := p.withAncestors.foldl addDir d

def removeFile (d : MemoryDisk) (p : Path) : MemoryDisk :=
  { d with files := d.files.filter fun f => !f.1.same p }

def removeUnder (d : MemoryDisk) (p : Path) : MemoryDisk :=
  ⟨d.files.filter fun f => !f.1.isUnder p, d.dirs.filter fun q => !q.isUnder p⟩

def sortedDirs (d : MemoryDisk) : List Path :=
  d.dirs.mergeSort fun p q => p.precedes q

end MemoryDisk

/-- The operations that a script can make fail. -/
inductive Operation
  | createDirAll | create | write | flush | read | removeFile | removeDirAll
  deriving DecidableEq, Repr

/-- A failure that a script plans: the operation, which of its calls fails (zero stands for each of
them), how many bytes a file accepts before a write fails, and the text of the failure. -/
structure PlannedFault where
  operation : Operation
  nth : Nat
  after : Nat
  message : String
  deriving DecidableEq, Repr

structure CompilerScript where
  error? : Option String
  report : CompileReport
  /-- The class file written beside each source. -/
  classBytes? : Option (List UInt8)
  deriving DecidableEq, Repr

structure MemoryScript where
  faults : List PlannedFault
  compiler : CompilerScript
  archiveError? : Option String
  id : String
  deriving DecidableEq, Repr

/-- The disk, and the logged requests so far. -/
structure MemoryState where
  disk : MemoryDisk
  log : List Request
  deriving DecidableEq, Repr

/-- The operation of a request, if a script can make it fail. -/
def Request.operation? : Request → Option Operation
  | .createDirAll _ => some .createDirAll
  | .create _ => some .create
  | .write _ _ => some .write
  | .flush _ => some .flush
  | .read _ => some .read
  | .removeFile _ => some .removeFile
  | .removeDirAll _ => some .removeDirAll
  | _ => none

namespace MemoryScript

/-- The failure planned for a call of an operation that is the `count`-th one. -/
def faultAt? (script : MemoryScript) (op : Operation) (count : Nat) : Option String :=
  (script.faults.find? fun f => f.operation = op ∧ (f.nth = 0 ∨ f.nth = count)).map (·.message)

/-- The failure planned for writes or flushes, with the number of bytes that are accepted. -/
def streamFault? (script : MemoryScript) (op : Operation) : Option PlannedFault :=
  script.faults.find? fun f => f.operation = op

end MemoryScript

namespace MemoryState

/-- How many calls of an operation are in the log. -/
def countOf (s : MemoryState) (op : Operation) : Nat :=
  (s.log.filter fun q => q.operation? = some op).length

def record (s : MemoryState) (q : Request) : MemoryState := { s with log := s.log ++ [q] }

/-- The failure of a logged operation that was just recorded. -/
def faultOf? (script : MemoryScript) (s : MemoryState) (op : Operation) : Option String :=
  script.faultAt? op (s.countOf op)

/-- Writes to the end of a file; a planned failure lets only so many bytes of the file through. -/
def write (script : MemoryScript) (s : MemoryState) (p : Path) (bytes : List UInt8) :
    Except String Unit × MemoryState :=
  let before := (s.disk.read? p).getD []
  match script.streamFault? .write with
  | none => (.ok (), { s with disk := s.disk.put p (before ++ bytes) })
  | some f =>
    let room := f.after - before.length
    if bytes.length ≤ room then (.ok (), { s with disk := s.disk.put p (before ++ bytes) })
    else (.error f.message, { s with disk := s.disk.put p (before ++ bytes.take room) })

/-- What a compiler run leaves on the disk. -/
def compiled (script : MemoryScript) (s : MemoryState) (job : CompileJob) : MemoryState :=
  match script.compiler.classBytes? with
  | none => s
  | some bytes =>
    { s with disk := job.sources.foldl (fun d p => d.put (p.withExtension "class") bytes) s.disk }

end MemoryState

def MemoryScript.world (script : MemoryScript) : World MemoryState
  | .createDirAll p, s =>
    let s := s.record (.createDirAll p)
    match s.faultOf? script .createDirAll with
    | some e => (.error e, s)
    | none => (.ok (), { s with disk := s.disk.addDirs p })
  | .create p, s =>
    let s := s.record (.create p)
    match s.faultOf? script .create with
    | some e => (.error e, s)
    | none => (.ok (), { s with disk := s.disk.put p [] })
  | .write p bytes, s => s.write script p bytes
  | .flush _, s =>
    match script.streamFault? .flush with
    | some f => (.error f.message, s)
    | none => (.ok (), s)
  | .read p, s =>
    let s := s.record (.read p)
    match s.faultOf? script .read with
    | some e => (.error e, s)
    | none =>
      match s.disk.read? p with
      | some bytes => (.ok bytes, s)
      | none => (.error "not found", s)
  | .pathExists p, s => (s.disk.hasFile p || s.disk.hasDir p, s)
  | .isDir p, s => (s.disk.hasDir p, s)
  | .isFile p, s => (s.disk.hasFile p, s)
  | .isProgram p, s => (s.disk.hasFile p, s)
  | .removeFile p, s =>
    let s := s.record (.removeFile p)
    match s.faultOf? script .removeFile with
    | some e => (.error e, s)
    | none =>
      if s.disk.hasFile p then (.ok (), { s with disk := s.disk.removeFile p })
      else (.error "not found", s)
  | .removeDirAll p, s =>
    let s := s.record (.removeDirAll p)
    match s.faultOf? script .removeDirAll with
    | some e => (.error e, s)
    | none => (.ok (), { s with disk := s.disk.removeUnder p })
  | .compile job, s =>
    let s := s.record (.compile job)
    match script.compiler.error? with
    | some e => (.error e, s)
    | none => (.ok script.compiler.report, s.compiled script job)
  | .archive job, s =>
    let s := s.record (.archive job)
    match script.archiveError? with
    | some e => (.error e, s)
    | none => (.ok (), s)
  | .freshId, s => (script.id, s)

end JavaStubs
