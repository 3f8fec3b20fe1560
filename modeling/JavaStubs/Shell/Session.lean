import JavaStubs.Shell.Reader
import JavaStubs.Unix.Utility
import JavaStubs.World.Request

/-!
# The state of a shell

A shell has arguments, variables and the status of its last command. What its commands write goes to
buffers or to files of the disk.
-/

namespace JavaStubs
namespace Shell

open Text Unix

inductive Stream
  | buffer (number : Nat)
  | file (place : Place)
  deriving DecidableEq, Repr

/-- What a command reads, and where its output and its complaints go. -/
structure Streams where
  input : List Char
  output : Stream
  errors : Stream
  deriving DecidableEq, Repr

structure Session where
  disk : Disk
  /-- The name of the script. -/
  script : List Char
  args : List (List Char)
  values : List (List Char × List Char)
  status : Nat
  buffers : List (List Char)

/-- How the shell goes on behind a command. -/
inductive Flow
  | next
  | exit
  | killed
  deriving DecidableEq, Repr

def processNumber : List Char := ['1']

namespace Session

/-- Appends to the buffer with a number. -/
def appendAt (buffers : List (List Char)) (number : Nat) (text : List Char) : List (List Char) :=
  buffers.mapIdx fun i old => if i = number then old ++ text else old

def emit (s : Session) (stream : Stream) (text : List Char) : Session :=
  match stream with
  | .buffer number => { s with buffers := appendAt s.buffers number text }
  | .file place => { s with disk := s.disk.append place (bytesOfChars text) }

def valueOf? (s : Session) (name : List Char) : Option (List Char) :=
  List.lookup name s.values

def assign (s : Session) (name value : List Char) : Session :=
  { s with values := (name, value) :: s.values.filter fun v => v.1 ≠ name }

def withStatus (s : Session) (status : Nat) : Session := { s with status := status }

/-- The session after a subshell, of which the files, the output and the status stay behind. -/
def afterSubshell (outer inner : Session) : Session :=
  { outer with
    disk := { inner.disk with here := outer.disk.here }
    buffers := inner.buffers
    status := inner.status }

/-- The value of a parameter, if it is set. -/
def value? (s : Session) : Parameter → Option (List Char)
  | .positional 0 => some s.script
  | .positional (n + 1) => s.args[n]?
  | .all _ => some (Text.join [' '] s.args)
  | .count => some (Utility.decimal s.args.length)
  | .status => some (Utility.decimal s.status)
  | .process => some processNumber
  | .variable name => s.valueOf? name

/-- Writes a complaint with the name of the script and a line in front. -/
def complain (s : Session) (streams : Streams) (line : Nat) (text : List Char) : Session :=
  s.emit streams.errors
    (s.script ++ ": ".toList ++ Utility.decimal line ++ ": ".toList ++ text ++ ['\n'])

/-- Takes over what a utility leaves behind. -/
def take (s : Session) (streams : Streams) (e : Effect) : Session :=
  (({ s with disk := e.disk, status := e.status }.emit streams.output e.output).emit
    streams.errors e.errors)

end Session

/-! ## Patterns -/

/-- Whether a pattern with `*` and `?` matches a whole text. -/
def isMatch : List Char → List Char → Bool
  | [], text => text.isEmpty
  | '*' :: pattern, text =>
    (List.range (text.length + 1)).any fun n => isMatch pattern (text.drop n)
  | '?' :: _, [] => false
  | '?' :: pattern, _ :: text => isMatch pattern text
  | _ :: _, [] => false
  | c :: pattern, d :: text => c = d && isMatch pattern text

/-- A text without the part at one end that a pattern matches. -/
def strip (atEnd longest : Bool) (pattern text : List Char) : List Char :=
  let sizes := List.range (text.length + 1)
  let sizes := if longest then sizes.reverse else sizes
  let cut (n : Nat) : List Char × List Char :=
    if atEnd then (text.drop (text.length - n), text.take (text.length - n))
    else (text.take n, text.drop n)
  match sizes.find? fun n => isMatch pattern (cut n).1 with
  | some n => (cut n).2
  | none => text

/-! ## Fields -/

/-- A stretch of a word whose parts have been replaced by their values, or the end of a field. -/
inductive Piece
  | chars (text : List Char) (quoted : Bool)
  | cut
  deriving DecidableEq, Repr

namespace Piece

def isSeparator (c : Char) : Bool := c = ' ' || c = '\t' || c = '\n'

/-- A value that is cut at blanks unless it is quoted. -/
def ofValue (quoted : Bool) (text : List Char) : List Piece :=
  if quoted then [.chars text true]
  else text.map fun c => if isSeparator c then .cut else .chars [c] false

/-- Values that each begin a field of their own. -/
def ofValues (quoted : Bool) : List (List Char) → List Piece
  | [] => []
  | [text] => ofValue quoted text
  | text :: rest => ofValue quoted text ++ .cut :: ofValues quoted rest

/-- The fields that pieces make up. An empty field is kept only if something in it is quoted. -/
def fields (current : Option (List Char)) : List Piece → List (List Char)
  | [] => current.toList
  | .cut :: rest => current.toList ++ fields none rest
  | .chars [] false :: rest => fields current rest
  | .chars text _ :: rest => fields (some (current.getD [] ++ text)) rest

/-- The text that pieces make up where nothing is cut. -/
def text : List Piece → List Char
  | [] => []
  | .cut :: rest => ' ' :: text rest
  | .chars cs _ :: rest => cs ++ text rest

end Piece

/-- A word that assigns: the name, and the word of the value. -/
def assignment? (w : Word) : Option (List Char × Word) :=
  go [] w
where
  go (name : List Char) : Word → Option (List Char × Word)
    | .literal [c] false :: rest =>
      if c = '=' then (if name = [] then none else some (name, rest))
      else if Token.isNameChar c && (name ≠ [] || Token.isNameStart c) then go (name ++ [c]) rest
      else none
    | _ => none

/-- The assignments in front of a command, and its other words. -/
def cutAssignments : List Word → List (List Char × Word) × List Word
  | [] => ([], [])
  | w :: rest =>
    match assignment? w with
    | some a =>
      let (as, words) := cutAssignments rest
      (a :: as, words)
    | none => ([], w :: rest)

end Shell
end JavaStubs
