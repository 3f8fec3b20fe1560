import JavaStubs.Text.CharClass
import JavaStubs.World.Request

/-!
# Files of variables

A file named `.env` sets variables that are not set yet, one on a line: `NAME=value`, with `export`
in front if one likes. Values may be quoted, single quotes keep everything as it is, and `$NAME`
stands for a variable. A line goes on after its end while a quote is open, and ends where a comment
begins. The first line that is wrong ends the reading; what was set before it stays set.
-/

namespace JavaStubs
namespace EnvFile

open Text

/-! ## Lines -/

/-- Where in a line one stands. -/
inductive Place
  | bare
  /-- Behind a blank, where a comment may begin. -/
  | afterBlank
  | escaped
  | single (escaped : Bool)
  | double (escaped : Bool)
  | comment
  deriving DecidableEq, Repr

/-- The place behind a character outside of quotes. -/
def Place.ofBare (c : Char) : Place :=
  if c = '\\' then .escaped
  else if c = '"' then .double false
  else if c = '\'' then .single false
  else .bare

def Place.next (p : Place) (c : Char) : Place :=
  match p with
  | .bare => if isBlank c && c ≠ '\n' && c ≠ '\r' then .afterBlank else ofBare c
  | .afterBlank => if c = '#' then .comment else ofBare c
  | .escaped => .bare
  | .single true => .single false
  | .single false => if c = '\\' then .single true else if c = '\'' then .bare else .single false
  | .double true => .double false
  | .double false => if c = '\\' then .double true else if c = '"' then .bare else .double false
  | .comment => .comment

/-- The text up to a comment, and the place at its end. -/
def cutComment (p : Place) : List Char → List Char × Place
  | [] => ([], p)
  | c :: rest =>
    match p.next c with
    | .comment => ([], .comment)
    | q =>
      let (kept, last) := cutComment q rest
      (c :: kept, last)

/-- The bytes cut behind each newline. -/
def splitLines : List UInt8 → List (List UInt8)
  | [] => []
  | b :: rest =>
    if b = 10 then [b] :: splitLines rest
    else match splitLines rest with
      | [] => [[b]]
      | line :: lines => (b :: line) :: lines

def dropNewline (line : List Char) : List Char :=
  match line.reverse with
  | '\n' :: '\r' :: rest => rest.reverse
  | '\n' :: rest => rest.reverse
  | _ => line

def isComment (text : List Char) : Bool := (trimStart text).head? = some '#'

/-- The lines with their comments cut off, each joined with those that it goes on into. A line that
cannot be read is `none` and the last one. -/
def joinLines (open? : Option (List Char × Place)) : List (List UInt8) → List (Option (List Char))
  | [] => if open?.isSome then [none] else []
  | bytes :: rest =>
    match Utf8.decode bytes with
    | .error _ => [none]
    | .ok line =>
      let (before, place) := open?.getD ([], .bare)
      if isComment (before ++ line) then some [] :: joinLines none rest
      else match cutComment place line with
        | (kept, .bare) => some (dropNewline (before ++ kept)) :: joinLines none rest
        | (kept, .comment) => some (before ++ kept) :: joinLines none rest
        | (kept, last) => joinLines (some (before ++ kept, last)) rest

/-! ## Values -/

inductive Quote
  | single | double
  deriving DecidableEq, Repr

/-- A value as far as it has been read. -/
structure Value where
  text : List Char := []
  quote : Option Quote := none
  escaped : Bool := false
  /-- The name of a variable that is being read, and whether a brace stands before it. -/
  name : Option (Bool × List Char) := none

namespace Value

def push (v : Value) (c : Char) : Value := { v with text := v.text ++ [c] }

/-- Puts the value of the variable that was read in its place. -/
def substitute (lookup : List Char → List Char) (v : Value) : Value :=
  match v.name with
  | some (_, name) => { v with text := v.text ++ lookup name, name := none }
  | none => v

def escapedChar? (c : Char) : Option Char :=
  if c = 'n' then some '\n' else if ['\\', '\'', '"', '$', ' '].contains c then some c else none

/-- Reads a character that goes on with the name of a variable, or ends it. -/
def stepName (lookup : List Char → List Char) (v : Value) (braced : Bool) (name : List Char)
    (c : Char) : Value :=
  if isLetterOrNumber c then { v with name := some (braced, name ++ [c]) }
  else if braced then
    if c = '\x7d' then v.substitute lookup else { v with name := some (true, name ++ [c]) }
  else if c = '\x7b' ∧ name = [] then { v with name := some (true, []) }
  else if c = '$' then { v.substitute lookup with name := some (false, []) }
  else (v.substitute lookup).push c

/-- Reads a character outside of escapes, single quotes and names. -/
def stepOpen (v : Value) (c : Char) : Value :=
  if c = '$' then { v with name := some (false, []) }
  else if c = '\\' then { v with escaped := true }
  else if c = '"' then { v with quote := if v.quote = none then some .double else none }
  else if c = '\'' ∧ v.quote = none then { v with quote := some .single }
  else v.push c

/-- The finished value, unless a quote or a brace is still open. -/
def finish? (lookup : List Char → List Char) (v : Value) : Option (List Char) :=
  match v.quote, v.name with
  | some _, _ => none
  | none, some (true, _) => none
  | none, _ => some (v.substitute lookup).text

/-- Only blanks and a comment may follow a value. -/
def endsHere (rest : List Char) : Bool :=
  match rest.dropWhile fun c => c = ' ' || c = '\t' with
  | [] => true
  | c :: _ => c = '#'

def read? (lookup : List Char → List Char) (v : Value) : List Char → Option (List Char)
  | [] => v.finish? lookup
  | c :: rest =>
    if v.escaped then
      match escapedChar? c with
      | some d => { v.push d with escaped := false }.read? lookup rest
      | none => none
    else if v.quote = some .single then
      (if c = '\'' then { v with quote := none } else v.push c).read? lookup rest
    else match v.name with
      | some (braced, name) => (v.stepName lookup braced name c).read? lookup rest
      | none =>
        if v.quote = none ∧ (c = ' ' ∨ c = '\t') then
          if endsHere rest then v.finish? lookup else none
        else (v.stepOpen c).read? lookup rest

end Value

/-! ## Assignments -/

def isKeyStart (c : Char) : Bool := c.isAlpha || c = '_'

def isKeyChar (c : Char) : Bool := c.isAlphanum || c = '_' || c = '.'

/-- A name, and what follows it behind blanks. -/
def cutKey? (text : List Char) : Option (List Char × List Char) :=
  match text with
  | c :: _ =>
    if isKeyStart c then some (text.takeWhile isKeyChar, trimStart (text.dropWhile isKeyChar))
    else none
  | [] => none

/-- What follows an equals sign, behind blanks. -/
def afterEqual? : List Char → Option (List Char)
  | '=' :: rest => some (trimStart rest)
  | _ => none

/-- The name that a line sets, and the text of its value. -/
def cutAssignment? (line : List Char) : Option (List Char × List Char) := do
  let (key, rest) ← cutKey? line
  match afterEqual? rest with
  | some value => return (key, value)
  | none =>
    if key = "export".toList then
      let (key, rest) ← cutKey? rest
      return (key, ← afterEqual? rest)
    else none

/-- What is set so far: the environment, and the values that the file gave. -/
structure Reading where
  environment : Environment
  given : List (String × List Char)

namespace Reading

/-- The value of a variable: that of the environment, or else the last one that the file gave. -/
def lookup (r : Reading) (name : List Char) : List Char :=
  match r.environment.text? (String.ofList name) with
  | some s => s.toList
  | none => (List.lookup (String.ofList name) r.given).getD []

/-- Takes over an assignment; a variable that is set to text keeps its value. -/
def assign (r : Reading) (name : String) (value : List Char) : Reading :=
  { environment :=
      if (r.environment.text? name).isSome then r.environment
      else r.environment.set name (OsText.ofChars value)
    given := (name, value) :: r.given }

def readLine? (r : Reading) (line : List Char) : Option Reading :=
  let text := trim line
  if text = [] ∨ isComment text then some r
  else do
    let (key, value) ← cutAssignment? text
    if value = [] ∨ isComment value then return r.assign (String.ofList key) []
    return r.assign (String.ofList key) (← Value.read? r.lookup {} value)

/-- Reads lines up to the first that is wrong. There is no result if a value has a NUL character,
which no variable can hold. -/
def readLines? (r : Reading) : List (Option (List Char)) → Option Reading
  | [] => some r
  | none :: _ => some r
  | some line :: rest =>
    match r.readLine? line with
    | some r => if r.environment.isValid then r.readLines? rest else none
    | none => some r

end Reading

/-- Takes a mark of the byte order off the front. -/
def dropMark : List UInt8 → List UInt8
  | 0xEF :: 0xBB :: 0xBF :: rest => rest
  | bytes => bytes

/-- The environment with the variables of a file, unless one of them cannot be set. -/
def load? (env : Environment) (bytes : List UInt8) : Option Environment :=
  (Reading.readLines? ⟨env, []⟩ (joinLines none (splitLines (dropMark bytes)))).map
    Reading.environment

end EnvFile
end JavaStubs
