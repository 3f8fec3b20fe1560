import JavaStubs.World.Request

/-!
# A disk

A tree of directories and files with a working directory. A path is followed name by name; what
comes of it depends on what stands at its end and on whether a slash does.
-/

namespace JavaStubs
namespace Unix

inductive OsError
  | missing
  | unknownFormat
  | denied
  | present
  | notDirectory
  | isDirectory
  | invalid
  | nameTooLong
  /-- A path with a NUL byte in it, which never reaches the operating system. -/
  | nulInPath
  deriving DecidableEq, Repr

namespace OsError

def code? : OsError → Option Nat
  | .missing => some 2
  | .unknownFormat => some 8
  | .denied => some 13
  | .present => some 17
  | .notDirectory => some 20
  | .isDirectory => some 21
  | .invalid => some 22
  | .nameTooLong => some 36
  | .nulInPath => none

def text : OsError → String
  | .missing => "No such file or directory"
  | .unknownFormat => "Exec format error"
  | .denied => "Permission denied"
  | .present => "File exists"
  | .notDirectory => "Not a directory"
  | .isDirectory => "Is a directory"
  | .invalid => "Invalid argument"
  | .nameTooLong => "File name too long"
  | .nulInPath => "file name contained an unexpected NUL byte"

/-- The text with the number behind it. -/
def message (e : OsError) : String :=
  match e.code? with
  | some n => e.text ++ " (os error " ++ toString n ++ ")"
  | none => e.text

end OsError

/-- The names on the way from the root to a node. -/
abbrev Place := List (List UInt8)

/-- What stands at a place. -/
inductive Node
  | directory
  | file (bytes : List UInt8) (executable : Bool)
  /-- A file with a finished archive in it. -/
  | archive (entries : List ArchiveEntry)
  /-- A file that is always empty. -/
  | sink
  /-- A program of the system. -/
  | program (name : String)
  deriving DecidableEq, Repr

def Node.isFile : Node → Bool
  | .file _ _ | .archive _ | .program _ => true
  | .directory | .sink => false

def Node.isProgram : Node → Bool
  | .file _ executable => executable
  | .program _ => true
  | _ => false

/-- The nodes below the root, no two at one place, and the working directory. -/
structure Disk where
  nodes : List (Place × Node)
  here : Place
  deriving DecidableEq, Repr

/-- Where a path leads. -/
structure Spot where
  place : Place
  node? : Option Node
  /-- A slash stands at the end of the path. -/
  slashed : Bool
  /-- The last name of the path is `.` or `..`, or there is none. -/
  dotted : Bool

namespace Disk

def at? (d : Disk) (place : Place) : Option Node :=
  if place = [] then some .directory else List.lookup place d.nodes

/-- Puts a node in the place of any that stands there. -/
def put (d : Disk) (place : Place) (node : Node) : Disk :=
  if (List.lookup place d.nodes).isSome then
    { d with nodes := d.nodes.map fun n => if n.1 = place then (place, node) else n }
  else { d with nodes := d.nodes ++ [(place, node)] }

/-- Removes what stands at or below a place. -/
def remove (d : Disk) (place : Place) : Disk :=
  { d with nodes := d.nodes.filter fun n => !place.isPrefixOf n.1 }

/-! ## Following paths -/

def slashByte : UInt8 := 47

def dotName : List UInt8 := [46]

def dotDotName : List UInt8 := [46, 46]

/-- The longest name and the shortest path that is too long. -/
def nameLimit : Nat := 255

def pathLimit : Nat := 4096

/-- The place of a name in a directory, and whether the name is `.` or `..`. -/
def step (d : Disk) (place : Place) (name : List UInt8) : Except OsError (Place × Bool) :=
  match d.at? place with
  | none => .error .missing
  | some .directory =>
    if name = dotName then .ok (place, true)
    else if name = dotDotName then .ok (place.dropLast, true)
    else if nameLimit < name.length then .error .nameTooLong
    else .ok (place ++ [name], false)
  | some _ => .error .notDirectory

/-- Follows names from a directory. Only the last one may lead to nothing. -/
def follow (d : Disk) (slashed : Bool) (place : Place) : List (List UInt8) → Except OsError Spot
  | [] => .ok ⟨place, d.at? place, slashed, true⟩
  | [name] => do
    let (place, dotted) ← d.step place name
    return ⟨place, d.at? place, slashed, dotted⟩
  | name :: rest => do
    let (next, _) ← d.step place name
    if (d.at? next).isNone then .error .missing else d.follow slashed next rest

def resolve (d : Disk) (path : List UInt8) : Except OsError Spot :=
  if path.contains 0 then .error .nulInPath
  else if path = [] then .error .missing
  else if pathLimit ≤ path.length then .error .nameTooLong
  else
    let names := (Text.split slashByte path).filter (· ≠ [])
    let start := if path.head? = some slashByte then [] else d.here
    d.follow (path.getLast? = some slashByte) start names

/-! ## Operations -/

/-- What stands at the end of a path. -/
def stat (d : Disk) (path : List UInt8) : Except OsError Node := do
  let spot ← d.resolve path
  match spot.node? with
  | none => .error .missing
  | some node => if spot.slashed ∧ node ≠ .directory then .error .notDirectory else .ok node

def isThere (d : Disk) (path : List UInt8) : Bool :=
  match d.stat path with
  | .ok _ => true
  | .error _ => false

/-- Whether what stands at the end of a path is of a kind. -/
def check (d : Disk) (kind : Node → Bool) (path : List UInt8) : Bool :=
  match d.stat path with
  | .ok node => kind node
  | .error _ => false

def isDirectory (d : Disk) (path : List UInt8) : Bool := d.check (· = .directory) path

def read (d : Disk) (path : List UInt8) : Except OsError (List UInt8) := do
  match ← d.stat path with
  | .directory => .error .isDirectory
  | .file bytes _ => .ok bytes
  | .archive _ | .sink | .program _ => .ok []

def makeDir (d : Disk) (path : List UInt8) : Except OsError Disk := do
  let spot ← d.resolve path
  if spot.node?.isSome then .error .present else .ok (d.put spot.place .directory)

/-- Opens a file for writing, empty if `fresh`, and tells its place. -/
def openFile (d : Disk) (fresh : Bool) (path : List UInt8) : Except OsError (Place × Disk) := do
  let spot ← d.resolve path
  if spot.slashed || spot.dotted then .error .isDirectory
  else match spot.node? with
    | some .directory => .error .isDirectory
    | some (.program _) => .error .denied
    | some .sink => .ok (spot.place, d)
    | some (.file bytes executable) =>
      .ok (spot.place, if fresh then d.put spot.place (.file [] executable)
        else d.put spot.place (.file bytes executable))
    | some (.archive _) | none => .ok (spot.place, d.put spot.place (.file [] false))

/-- Writes to the end of the file at a place. -/
def append (d : Disk) (place : Place) (bytes : List UInt8) : Disk :=
  match d.at? place with
  | some (.file before executable) => d.put place (.file (before ++ bytes) executable)
  | _ => d

def removeFile (d : Disk) (path : List UInt8) : Except OsError Disk := do
  let spot ← d.resolve path
  match spot.node? with
  | none => .error .missing
  | some .directory => .error .isDirectory
  | some _ => if spot.slashed then .error .notDirectory else .ok (d.remove spot.place)

def removeDirectory (d : Disk) (path : List UInt8) : Except OsError Disk := do
  let spot ← d.resolve path
  match spot.node? with
  | none => .error .missing
  | some .directory => if spot.dotted then .error .invalid else .ok (d.remove spot.place)
  | some _ => .error .notDirectory

/-- Makes a directory after those above it: only where a directory above is missing are they made
first. -/
def makeDirs (d : Disk) (path : Path) : Except OsError Unit × Disk :=
  go path.text.length d path
where
  attempt (d : Disk) (path : Path) : Except OsError Unit × Disk :=
    match d.makeDir (OsText.toBytes path.text) with
    | .ok d => (.ok (), d)
    | .error e => (if d.isDirectory (OsText.toBytes path.text) then .ok () else .error e, d)
  go : Nat → Disk → Path → Except OsError Unit × Disk
    | 0, d, _ => (.ok (), d)
    | n + 1, d, path =>
      if path.isEmpty then (.ok (), d)
      else match attempt d path with
        | (.error .missing, d) =>
          match path.parent? with
          | none => (.error .missing, d)
          | some parent =>
            match go n d parent with
            | (.ok (), d) => attempt d path
            | (.error e, d) => (.error e, d)
        | (outcome, d) => (outcome, d)

/-- Writes an archive; the manifest is its first entry. -/
def writeArchive (d : Disk) (path : List UInt8) (entries : List ArchiveEntry) :
    Except OsError Disk := do
  let (place, d) ← d.openFile true path
  match d.at? place with
  | some .sink => .ok d
  | _ => .ok (d.put place (.archive entries))

end Disk
end Unix
end JavaStubs
