import JavaStubs.Shell.Session

/-!
# Carrying out commands

Commands change the session one after another. The depth to which commands may be nested, and the
number of rounds of a loop, are bounded.
-/

namespace JavaStubs
namespace Shell

open Text Unix

abbrev Step := StateM Session

/-- The directories that are searched where no variable names any. -/
def defaultSearchPath : List Char :=
  "/usr/local/sbin:/usr/local/bin:/usr/sbin:/usr/bin:/sbin:/bin".toList

/-- The paths at which a command may stand. -/
def candidates (s : Session) (name : List Char) : List (List Char) :=
  if name.contains '/' then [name]
  else
    let dirs := Text.split ':' ((s.valueOf? "PATH".toList).getD defaultSearchPath)
    dirs.map fun dir => if dir = [] then name else dir ++ '/' :: name

/-- The path of a command that can be run, or else whether something stands at one of its paths. -/
def locate (s : Session) (name : List Char) : Except Bool (List Char) :=
  let paths := candidates s name
  match paths.find? fun p => s.disk.check Node.isProgram (bytesOfChars p) with
  | some p => .ok p
  | none => .error (paths.any fun p => s.disk.isThere (bytesOfChars p))

def openComplaint (creating : Bool) (path : List Char) (e : OsError) : List Char :=
  let reason :=
    if e = .missing ∨ e = .notDirectory then
      if creating then "Directory nonexistent" else "No such file"
    else e.text
  (if creating then "cannot create " else "cannot open ").toList ++ path ++ ": ".toList
    ++ reason.toList

/-- The streams after a redirection to a target. -/
def redirect (streams : Streams) (r : Redirection) (target : List Char) (s : Session) :
    Except (List Char) (Streams × Session) :=
  let setStream (stream : Stream) : Streams :=
    if r.stream = 2 then { streams with errors := stream }
    else if r.stream = 1 then { streams with output := stream }
    else streams
  match r.kind with
  | .write | .append =>
    match s.disk.openFile (r.kind = .write) (bytesOfChars target) with
    | .ok (place, d) => .ok (setStream (.file place), { s with disk := d })
    | .error e => .error (openComplaint true target e)
  | .read =>
    match s.disk.read (bytesOfChars target) with
    | .ok bytes => .ok ({ streams with input := charsOfBytes bytes }, s)
    | .error .isDirectory => .ok ({ streams with input := [] }, s)
    | .error e => .error (openComplaint false target e)
  | .same =>
    if target = ['1'] then .ok (setStream streams.output, s)
    else if target = ['2'] then .ok (setStream streams.errors, s)
    else .ok (streams, s)

/-- The status that an argument of `exit` names. -/
def exitStatus? (arg : List Char) : Option Nat :=
  if arg ≠ [] ∧ arg.all Char.isDigit then some (Token.numberOf arg % 256) else none

def isKillOfSelf (args : List (List Char)) : Bool :=
  args.getLast? = some processNumber && args.head? ≠ some ['-', '0']

/-- Commands whose failed redirection ends the shell. -/
def specialCommands : List String := [":", "exit", "exec", "export", "set", "shift", "unset"]

/-- Commands that the shell carries out by itself: they need no program. -/
def builtin (streams : Streams) (line : Nat) (name : String) (args : List (List Char)) :
    Step (Option Flow) := do
  let take (f : Disk → Effect) : Step (Option Flow) := do
    modify fun s => s.take streams (f s.disk)
    return some .next
  match name with
  | ":" | "true" => take fun d => { disk := d }
  | "false" => take fun d => { disk := d, status := 1 }
  | "echo" => take (Utility.echo true args)
  | "printf" => take (Utility.printf args)
  | "test" => take (Utility.test args)
  | "[" =>
    if args.getLast? = some [']'] then take (Utility.test args.dropLast)
    else
      modify fun s => (s.complain streams line "[: missing ]".toList).withStatus 2
      return some .next
  | "pwd" => take fun d => { disk := d, output := Utility.workingDirectory d ++ ['\n'] }
  | "cd" =>
    let target := args.head?.getD []
    modify fun s =>
      match s.disk.resolve (bytesOfChars target) with
      | .ok ⟨place, some .directory, _, _⟩ =>
        { s with disk := { s.disk with here := place }, status := 0 }
      | _ => (s.complain streams line ("cd: can't cd to ".toList ++ target)).withStatus 2
    return some .next
  | "shift" =>
    modify fun s => { s with args := s.args.drop 1, status := 0 }
    return some .next
  | "export" =>
    modify fun s => args.foldl (fun s arg =>
      match Text.cut? '=' arg with
      | some (name, value) => s.assign name value
      | none => s) (s.withStatus 0)
    return some .next
  | "unset" =>
    modify fun s =>
      { s with values := s.values.filter fun v => !args.contains v.1, status := 0 }
    return some .next
  | "set" =>
    modify fun s => s.withStatus 0
    return some .next
  | "kill" =>
    if isKillOfSelf args then return some .killed
    modify fun s => s.withStatus 0
    return some .next
  | "exit" =>
    match args.head? with
    | none => return some .exit
    | some arg =>
      match exitStatus? arg with
      | some status => modify fun s => s.withStatus status
      | none =>
        modify fun s =>
          (s.complain streams line ("exit: Illegal number: ".toList ++ arg)).withStatus 2
      return some .exit
  | _ => return none

/-- The interpreter that the first line of a script names, with its argument. -/
def interpreter? (script : List Char) : Option (List Char × List (List Char)) :=
  match script with
  | '#' :: '!' :: rest =>
    let text := (rest.takeWhile (· ≠ '\n')).dropWhile fun c => c = ' ' || c = '\t'
    let isBlank := fun c => c = ' ' || c = '\t'
    let name := text.takeWhile fun c => !isBlank c
    let arg := Text.dropLastWhile isBlank ((text.dropWhile fun c => !isBlank c).dropWhile isBlank)
    if name = [] then none else some (name, if arg = [] then [] else [arg])
  | _ => none

mutual

/-- The pieces of a part of a word. -/
def expandPart : Nat → Streams → Part → Step (List Piece)
  | 0, _, _ => return []
  | _, _, .literal text quoted => return [.chars text quoted]
  | _, _, .parameter (.all false) .plain quoted => return Piece.ofValues quoted (← get).args
  | n + 1, streams, .parameter p e quoted => do
    let value := (← get).value? p
    match e with
    | .plain => return Piece.ofValue quoted (value.getD [])
    | .length => return Piece.ofValue quoted (Utility.decimal (value.getD []).length)
    | .orElse alsoEmpty text =>
      match value with
      | some v =>
        if v = [] ∧ alsoEmpty then expandWord n streams (Token.wordOfText quoted text)
        else return Piece.ofValue quoted v
      | none => expandWord n streams (Token.wordOfText quoted text)
    | .without atEnd longest pattern =>
      let pieces ← expandWord n streams (Token.wordOfText true pattern)
      return Piece.ofValue quoted (strip atEnd longest (Piece.text pieces) (value.getD []))
  | n + 1, streams, .output script quoted => do
    let number := (← get).buffers.length
    modify fun s => { s with buffers := s.buffers ++ [[]] }
    let outer ← get
    let _ ← runScript n { streams with output := .buffer number } script
    let inner ← get
    set (outer.afterSubshell inner)
    let text := (inner.buffers[number]?).getD []
    return Piece.ofValue quoted (Text.dropLastWhile (· = '\n') text)

def expandWord : Nat → Streams → Word → Step (List Piece)
  | 0, _, _ => return []
  | _, _, [] => return []
  | n + 1, streams, part :: rest => do
    let pieces ← expandPart n streams part
    return pieces ++ (← expandWord n streams rest)

/-- The fields of some words. -/
def expandWords : Nat → Streams → List Word → Step (List (List Char))
  | 0, _, _ => return []
  | _, _, [] => return []
  | n + 1, streams, w :: rest => do
    let pieces ← expandWord n streams w
    return Piece.fields none pieces ++ (← expandWords n streams rest)

def redirectAll : Nat → Streams → List Redirection → Step (Except (List Char) Streams)
  | 0, streams, _ => return .ok streams
  | _, streams, [] => return .ok streams
  | n + 1, streams, r :: rest => do
    let target := Piece.text (← expandWord n streams r.target)
    match redirect streams r target (← get) with
    | .ok (streams, s) =>
      set s
      redirectAll n streams rest
    | .error text => return .error text

def assignAll : Nat → Streams → List (List Char × Word) → Step Unit
  | 0, _, _ => return ()
  | _, _, [] => return ()
  | n + 1, streams, (name, w) :: rest => do
    let value := Piece.text (← expandWord n streams w)
    modify fun s => s.assign name value
    assignAll n streams rest

def run : Nat → Streams → Command → Step Flow
  | 0, _, _ => return .next
  | _, _, .nothing => return .next
  | n + 1, streams, .simple line words redirections => do
    let (assignments, words) := cutAssignments words
    let fields ← expandWords n streams words
    match ← redirectAll n streams redirections with
    | .error text =>
      modify fun s => (s.complain streams line text).withStatus 2
      let isSpecial := specialCommands.any fun c => fields.head? = some c.toList
      return if isSpecial then .exit else .next
    | .ok streams =>
      let before := (← get).values
      if fields = [] && words = [] then modify fun s => s.withStatus 0
      assignAll n streams assignments
      match fields with
      | [] => return .next
      | name :: args =>
        let flow ← runNamed n streams line name args
        modify fun s => if assignments = [] then s else { s with values := before }
        return flow
  | n + 1, streams, .redirected line body redirections => do
    match ← redirectAll n streams redirections with
    | .error text =>
      modify fun s => (s.complain streams line text).withStatus 2
      return .next
    | .ok streams => run n streams body
  | n + 1, streams, .negate body => do
    let flow ← run n streams body
    if flow = .next then modify fun s => s.withStatus (if s.status = 0 then 1 else 0)
    return flow
  | n + 1, streams, .pipe first second => do
    let number := (← get).buffers.length
    modify fun s => { s with buffers := s.buffers ++ [[]] }
    let flow ← run n { streams with output := .buffer number } (.subshell first)
    if flow = .killed then return .killed
    let input := ((← get).buffers[number]?).getD []
    run n { streams with input := input } (.subshell second)
  | n + 1, streams, .both first second => do
    let flow ← run n streams first
    if flow = .next && (← get).status = 0 then run n streams second else return flow
  | n + 1, streams, .either first second => do
    let flow ← run n streams first
    if flow = .next && (← get).status ≠ 0 then run n streams second else return flow
  | n + 1, streams, .sequence first second => do
    let flow ← run n streams first
    if flow = .next then run n streams second else return flow
  | n + 1, streams, .branch condition yes no => do
    let flow ← run n streams condition
    if flow ≠ .next then return flow
    let met := (← get).status = 0
    modify fun s => s.withStatus 0
    run n streams (if met then yes else no)
  | n + 1, streams, .repeated whileTrue condition body => do
    let flow ← run n streams condition
    if flow ≠ .next then return flow
    if decide ((← get).status = 0) = whileTrue then
      let flow ← run n streams body
      if flow = .next then run n streams (.repeated whileTrue condition body) else return flow
    else
      modify fun s => s.withStatus 0
      return .next
  | n + 1, streams, .each name words body => do
    let fields ← match words with
      | some words => expandWords n streams words
      | none => pure (← get).args
    modify fun s => s.withStatus 0
    runEach n streams name body fields
  | n + 1, streams, .subshell body => do
    let outer ← get
    let flow ← run n streams body
    modify outer.afterSubshell
    return if flow = .killed then .killed else .next

def runEach : Nat → Streams → List Char → Command → List (List Char) → Step Flow
  | 0, _, _, _, _ => return .next
  | _, _, _, _, [] => return .next
  | n + 1, streams, name, body, field :: rest => do
    modify fun s => s.assign name field
    let flow ← run n streams body
    if flow = .next then runEach n streams name body rest else return flow

/-- Carries out the command with a name: one of the shell's own, or else a program. -/
def runNamed : Nat → Streams → Nat → List Char → List (List Char) → Step Flow
  | 0, _, _, _, _ => return .next
  | n + 1, streams, line, name, args => do
    if name = "exec".toList then
      match args with
      | [] => return .next
      | name :: args =>
        let flow ← runNamed n streams line name args
        return if flow = .killed then .killed else .exit
    match ← builtin streams line (String.ofList name) args with
    | some flow => return flow
    | none =>
      match locate (← get) name with
      | .error there =>
        let reason := if there then ": Permission denied" else ": not found"
        modify fun s =>
          (s.complain streams line (name ++ reason.toList)).withStatus (if there then 126 else 127)
        return .next
      | .ok path => runProgram n streams path name args

/-- Runs the program at a path, which calls itself by a name. -/
def runProgram : Nat → Streams → List Char → List Char → List (List Char) → Step Flow
  | 0, _, _, _, _ => return .next
  | n + 1, streams, path, name, args => do
    let s ← get
    match s.disk.stat (bytesOfChars path) with
    | .ok (.program utility) =>
      modify fun s => s.take streams (Utility.run utility name args streams.input s.disk)
      return .next
    | .ok (.file bytes _) =>
      set { s with script := path, args := args, status := 0 }
      let flow ← runScript n streams (charsOfBytes bytes)
      modify fun inner =>
        { s with
          disk := { inner.disk with here := s.disk.here }
          buffers := inner.buffers
          status := if flow = .killed then 137 else inner.status }
      return .next
    | _ =>
      modify fun s => s.withStatus 126
      return .next

/-- Carries out the lines of a script until one ends it. -/
def runScript : Nat → Streams → List Char → Step Flow
  | 0, _, _ => return .next
  | n + 1, streams, script => do
    let (commands, complaint) := readScript script
    let flow ← runAll n streams commands
    if flow ≠ .next then return flow
    match complaint with
    | some e =>
      modify fun s => (s.complain streams e.line e.text.toList).withStatus 2
      return .exit
    | none => return .next

def runAll : Nat → Streams → List Command → Step Flow
  | 0, _, _ => return .next
  | _, _, [] => return .next
  | n + 1, streams, c :: rest => do
    let flow ← run n streams c
    if flow = .next then runAll n streams rest else return flow

end

end Shell
end JavaStubs
