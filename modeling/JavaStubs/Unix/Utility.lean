import JavaStubs.Text.OsText
import JavaStubs.Unix.Disk

/-!
# Utilities

Small programs of the system that work on files and texts, as far as scripts use them. A utility
reads its input, changes the disk, and leaves a status, an output and complaints.
-/

namespace JavaStubs
namespace Unix

open Text

/-- What a utility leaves behind. -/
structure Effect where
  disk : Disk
  status : Nat := 0
  output : List Char := []
  errors : List Char := []

namespace Effect

/-- A complaint, after which the utility goes on. -/
def complain (e : Effect) (text : List Char) : Effect :=
  { e with status := 1, errors := e.errors ++ text ++ ['\n'] }

def print (e : Effect) (text : List Char) : Effect := { e with output := e.output ++ text }

end Effect

namespace Utility

/-- A name between single quotes. -/
def quoted (name : List Char) : List Char :=
  ['\''] ++ name.flatMap (fun c => if c = '\'' then "'\\''".toList else [c]) ++ ['\'']

/-- A name as complaints show it, quoted only if it has to be. -/
def shown (name : List Char) : List Char :=
  if name ≠ [] ∧ name.all fun c => c.isAlphanum || "_-./,+:@%".toList.contains c then name
  else quoted name

/-! ## Escapes -/

def octalValue? (c : Char) : Option Nat :=
  if '0' ≤ c ∧ c ≤ '7' then some (c.toNat - '0'.toNat) else none

/-- A number in at most `n` octal digits, and what follows it. -/
def cutOctal : Nat → Nat → List Char → Nat × List Char
  | 0, value, text => (value, text)
  | _, value, [] => (value, [])
  | n + 1, value, c :: rest =>
    match octalValue? c with
    | some d => cutOctal n (8 * value + d) rest
    | none => (value, c :: rest)

/-- The character that a letter behind a backslash stands for. -/
def escaped? (c : Char) : Option Char :=
  match c with
  | 'a' => some '\x07'
  | 'b' => some '\x08'
  | 'f' => some '\x0c'
  | 'n' => some '\n'
  | 'r' => some '\r'
  | 't' => some '\t'
  | 'v' => some '\x0b'
  | '\\' => some '\\'
  | _ => none

/-- Puts in what escapes stand for. Where `zero` is set, a zero may stand before the digits of an
octal number, and the text ends where `\c` stands, which the second result tells. -/
def unescape (zero : Bool) : Nat → List Char → List Char × Bool
  | 0, text => (text, false)
  | _, [] => ([], false)
  | _ + 1, ['\\'] => (['\\'], false)
  | n + 1, '\\' :: c :: rest =>
    if c = 'c' ∧ zero then ([], true)
    else if zero ∧ c = '0' then
      let (value, rest) := cutOctal 3 0 rest
      let (text, stop) := unescape zero n rest
      (Char.ofNat (value % 256) :: text, stop)
    else if (octalValue? c).isSome then
      let (value, rest) := cutOctal 3 0 (c :: rest)
      let (text, stop) := unescape zero n rest
      (Char.ofNat (value % 256) :: text, stop)
    else
      let (text, stop) := unescape zero n rest
      match escaped? c with
      | some d => (d :: text, stop)
      | none => if c = '"' ∧ !zero then (c :: text, stop) else ('\\' :: c :: text, stop)
  | n + 1, c :: rest =>
    let (text, stop) := unescape zero n rest
    (c :: text, stop)

/-! ## Printing -/

/-- The arguments with blanks between them and a newline, which `-n` in front leaves out. -/
def echo (escapes : Bool) (args : List (List Char)) (d : Disk) : Effect :=
  let (args, newline) := match args with
    | ['-', 'n'] :: rest => (rest, [])
    | _ => (args, ['\n'])
  let text := Text.join [' '] args
  if escapes then
    let (text, stop) := unescape true text.length text
    { disk := d, output := if stop then text else text ++ newline }
  else { disk := d, output := text ++ newline }

def digitsOf (base n : Nat) : List Char := Nat.toDigits base n

/-- The number that an argument begins with. -/
def numberOf (arg : List Char) : Int :=
  let read (digits : List Char) : Nat :=
    (digits.takeWhile Char.isDigit).foldl (fun n c => 10 * n + (c.toNat - '0'.toNat)) 0
  match arg with
  | '-' :: digits => -(read digits : Int)
  | '+' :: digits => read digits
  | digits => read digits

def decimal (n : Int) : List Char := (toString n).toList

/-- An argument as a directive of a format shows it. -/
def formatted? (directive : Char) (arg : List Char) : Option (List Char) :=
  match directive with
  | 's' => some arg
  | 'c' => some (arg.take 1)
  | 'b' => some (unescape true arg.length arg).1
  | 'd' | 'i' | 'u' => some (decimal (numberOf arg))
  | 'o' => some (digitsOf 8 (numberOf arg).toNat)
  | 'x' => some (digitsOf 16 (numberOf arg).toNat)
  | 'X' => some ((digitsOf 16 (numberOf arg).toNat).map Char.toUpper)
  | _ => none

/-- Fills in the directives of a format one after another; the arguments that are left come last. -/
def fill : List Char → List (List Char) → List Char × List (List Char)
  | [], args => ([], args)
  | ['%'], args => (['%'], args)
  | '%' :: '%' :: rest, args =>
    let (text, left) := fill rest args
    ('%' :: text, left)
  | '%' :: directive :: rest, args =>
    match formatted? directive (args.head?.getD []) with
    | some shown =>
      let (text, left) := fill rest (args.drop 1)
      (shown ++ text, left)
    | none =>
      let (text, left) := fill rest args
      ('%' :: directive :: text, left)
  | c :: rest, args =>
    let (text, left) := fill rest args
    (c :: text, left)

/-- Uses a format again and again until no argument is left. -/
def fillAll : Nat → List Char → List (List Char) → List Char
  | 0, _, _ => []
  | n + 1, format, args =>
    let (text, left) := fill format args
    if left = [] ∨ left.length = args.length then text else text ++ fillAll n format left

def printf (args : List (List Char)) (d : Disk) : Effect :=
  match args with
  | [] => { disk := d, status := 2, errors := "printf: usage: printf format [arg ...]\n".toList }
  | format :: args =>
    { disk := d
      output := fillAll (args.length + 1) (unescape false format.length format).1 args }

/-! ## Tests -/

/-- Whether a node of some kind is at the end of a path. -/
def testFile? (op : List Char) (path : List Char) (d : Disk) : Option Bool :=
  let path := bytesOfChars path
  match op with
  | ['-', 'e'] => some (d.isThere path)
  | ['-', 'f'] => some (d.check Node.isFile path)
  | ['-', 'd'] => some (d.isDirectory path)
  | ['-', 'x'] => some (d.check (fun n => n.isProgram || n = .directory) path)
  | ['-', 'r'] | ['-', 'w'] => some (d.isThere path)
  | ['-', 's'] =>
    match d.read path with
    | .ok bytes => some (bytes ≠ [])
    | .error _ => some (d.isDirectory path)
  | _ => none

def testNumbers? (op : List Char) (a b : Int) : Option Bool :=
  match String.ofList op with
  | "-eq" => some (a = b)
  | "-ne" => some (a ≠ b)
  | "-lt" => some (a < b)
  | "-le" => some (a ≤ b)
  | "-gt" => some (b < a)
  | "-ge" => some (b ≤ a)
  | _ => none

/-- The value of a condition, if it is one. -/
def condition? (d : Disk) : List (List Char) → Option Bool
  | [] => some false
  | [text] => some (text ≠ [])
  | ['!'] :: rest => (condition? d rest).map not
  | [op, arg] =>
    if op = ['-', 'n'] then some (arg ≠ [])
    else if op = ['-', 'z'] then some (arg = [])
    else testFile? op arg d
  | [a, op, b] =>
    if op = ['='] then some (a = b)
    else if op = ['!', '='] then some (a ≠ b)
    else testNumbers? op (numberOf a) (numberOf b)
  | _ => none

def test (args : List (List Char)) (d : Disk) : Effect :=
  match condition? d args with
  | some true => { disk := d }
  | some false => { disk := d, status := 1 }
  | none => { disk := d, status := 2 }

/-! ## Files -/

/-- The letters of the options in front, and the other arguments. -/
def cutOptions : List (List Char) → List Char × List (List Char)
  | ['-', '-'] :: rest => ([], rest)
  | ('-' :: c :: letters) :: rest =>
    let (options, args) := cutOptions rest
    (c :: letters ++ options, args)
  | args => ([], args)

/-- A complaint with the name of the program, a text and the reason. -/
def complaint (program text : List Char) (e : OsError) : List Char :=
  program ++ ": ".toList ++ text ++ ": ".toList ++ e.text.toList

def catOne (program input : List Char) (e : Effect) (name : List Char) : Effect :=
  if name = ['-'] then e.print input
  else match e.disk.read (bytesOfChars name) with
    | .ok bytes => e.print (charsOfBytes bytes)
    | .error err => e.complain (complaint program (shown name) err)

def cat (program : List Char) (args : List (List Char)) (input : List Char) (d : Disk) : Effect :=
  if args = [] then { disk := d, output := input }
  else args.foldl (catOne program input) { disk := d }

def removeOne (program : List Char) (recursive force : Bool) (e : Effect) (name : List Char) :
    Effect :=
  let path := bytesOfChars name
  let result :=
    if recursive && e.disk.isDirectory path then e.disk.removeDirectory path
    else e.disk.removeFile path
  match result with
  | .ok d => { e with disk := d }
  | .error err =>
    if force && (err = .missing || err = .notDirectory) then e
    else e.complain (complaint program ("cannot remove ".toList ++ quoted name) err)

def remove (program : List Char) (args : List (List Char)) (d : Disk) : Effect :=
  let (options, names) := cutOptions args
  names.foldl
    (removeOne program (options.contains 'r' || options.contains 'R') (options.contains 'f'))
    { disk := d }

def makeDirOne (program : List Char) (parents : Bool) (e : Effect) (name : List Char) : Effect :=
  let path := bytesOfChars name
  let (result, d) :=
    if parents then e.disk.makeDirs ⟨OsText.ofBytes path⟩
    else match e.disk.makeDir path with
      | .ok d => (.ok (), d)
      | .error err => (.error err, e.disk)
  match result with
  | .ok () => { e with disk := d }
  | .error err =>
    { e with disk := d }.complain
      (complaint program ("cannot create directory ".toList ++ quoted name) err)

def makeDirs (program : List Char) (args : List (List Char)) (d : Disk) : Effect :=
  let (options, names) := cutOptions args
  names.foldl (makeDirOne program (options.contains 'p')) { disk := d }

def touchOne (program : List Char) (e : Effect) (name : List Char) : Effect :=
  let path := bytesOfChars name
  if e.disk.isDirectory path then e
  else match e.disk.openFile false path with
    | .ok (_, d) => { e with disk := d }
    | .error err =>
      e.complain (complaint program ("cannot touch ".toList ++ quoted name) err)

def baseName (path : List Char) : List Char :=
  match (path.reverse.dropWhile (· = '/')).reverse with
  | [] => path.take 1
  | trimmed => (trimmed.reverse.takeWhile (· ≠ '/')).reverse

def dirName (path : List Char) : List Char :=
  let trimmed := path.reverse.dropWhile (· = '/')
  match trimmed.dropWhile (· ≠ '/') with
  | [] => if trimmed = [] ∧ path ≠ [] then ['/'] else ['.']
  | rest =>
    match rest.dropWhile (· = '/') with
    | [] => ['/']
    | front => front.reverse

/-- The path of a file that goes to a target, which may be a directory. -/
def targetOf (d : Disk) (source target : List Char) : List Char :=
  if d.isDirectory (bytesOfChars target) then target ++ ['/'] ++ baseName source else target

/-- Copies a file, and removes it then if it is moved. -/
def transferOne (program : List Char) (move : Bool) (target : List Char) (e : Effect)
    (source : List Char) : Effect :=
  let path := bytesOfChars source
  match e.disk.stat path with
  | .error err => e.complain (complaint program ("cannot stat ".toList ++ quoted source) err)
  | .ok .directory =>
    e.complain (program ++ ": -r not specified; omitting directory ".toList ++ quoted source)
  | .ok node =>
    let target := targetOf e.disk source target
    match e.disk.openFile true (bytesOfChars target) with
    | .error err =>
      e.complain
        (complaint program ("cannot create regular file ".toList ++ quoted target) err)
    | .ok (place, d) =>
      let d := d.put place node
      if move then
        match d.removeFile path with
        | .ok d => { e with disk := d }
        | .error _ => { e with disk := d }
      else { e with disk := d }

def transfer (program : List Char) (move : Bool) (args : List (List Char)) (d : Disk) : Effect :=
  let (_, names) := cutOptions args
  match names.reverse with
  | [] | [_] => { disk := d, status := 1, errors := program ++ ": missing file operand\n".toList }
  | target :: sources => sources.reverse.foldl (transferOne program move target) { disk := d }

/-- The last name of a path without a suffix. -/
def baseNameWithout (path suffix : List Char) : List Char :=
  let name := baseName path
  if suffix ≠ [] ∧ suffix.isSuffixOf name ∧ name ≠ suffix then
    name.take (name.length - suffix.length)
  else name

def workingDirectory (d : Disk) : List Char :=
  if d.here = [] then ['/'] else d.here.flatMap fun name => '/' :: charsOfBytes name

def names : List String :=
  ["basename", "cat", "cp", "dirname", "echo", "false", "mkdir", "mv", "printf", "pwd", "rm",
    "sleep", "test", "touch", "true"]

def run (name : String) (program : List Char) (args : List (List Char)) (input : List Char)
    (d : Disk) : Effect :=
  match name with
  | "basename" =>
    match args with
    | [path] => { disk := d, output := baseName path ++ ['\n'] }
    | path :: suffix :: _ => { disk := d, output := baseNameWithout path suffix ++ ['\n'] }
    | [] => { disk := d, status := 1, errors := program ++ ": missing operand\n".toList }
  | "cat" => cat program args input d
  | "cp" => transfer program false args d
  | "dirname" => { disk := d, output := args.flatMap fun path => dirName path ++ ['\n'] }
  | "echo" => echo false args d
  | "false" => { disk := d, status := 1 }
  | "mkdir" => makeDirs program args d
  | "mv" => transfer program true args d
  | "printf" => printf args d
  | "pwd" => { disk := d, output := workingDirectory d ++ ['\n'] }
  | "rm" => remove program args d
  | "test" => test args d
  | "touch" => (cutOptions args).2.foldl (touchOne program) { disk := d }
  | _ => { disk := d }

end Utility
end Unix
end JavaStubs
