import JavaStubs.Text.Pieces

/-!
# Tokens of a shell

A script is cut into words, operators and redirections. Words are made of quoted and unquoted parts,
since only what is unquoted is split into fields. A word that has no end is the last token and
carries the complaint about it.
-/

namespace JavaStubs
namespace Shell

/-- What a dollar sign can name. -/
inductive Parameter
  | positional (n : Nat)
  /-- All arguments, each for itself or joined. -/
  | all (joined : Bool)
  | count
  | status
  | process
  | variable (name : List Char)
  deriving DecidableEq, Repr

/-- What is done with the value of a parameter. Texts are words that are not read yet. -/
inductive Expansion
  | plain
  | length
  /-- Another text where the parameter is unset, or empty as well. -/
  | orElse (alsoEmpty : Bool) (text : List Char)
  /-- The value without the part at one end that a pattern matches. -/
  | without (atEnd longest : Bool) (pattern : List Char)
  deriving DecidableEq, Repr

inductive Part
  | literal (text : List Char) (quoted : Bool)
  | parameter (p : Parameter) (e : Expansion) (quoted : Bool)
  /-- The output of a script. -/
  | output (script : List Char) (quoted : Bool)
  deriving DecidableEq, Repr

abbrev Word := List Part

inductive RedirectionKind
  | write | append | read
  /-- The stream becomes the same as another one. -/
  | same
  deriving DecidableEq, Repr

structure Redirection where
  stream : Nat
  kind : RedirectionKind
  target : Word
  deriving DecidableEq, Repr

inductive Command
  | nothing
  | simple (line : Nat) (words : List Word) (redirections : List Redirection)
  | redirected (line : Nat) (body : Command) (redirections : List Redirection)
  | negate (body : Command)
  | pipe (first second : Command)
  | both (first second : Command)
  | either (first second : Command)
  | sequence (first second : Command)
  | branch (condition yes no : Command)
  /-- Goes on as long as the condition ends as told. -/
  | repeated (whileTrue : Bool) (condition body : Command)
  /-- Goes through fields; without words, through the arguments. -/
  | each (name : List Char) (words : Option (List Word)) (body : Command)
  | subshell (body : Command)
  deriving DecidableEq, Repr

inductive TokenKind
  | word (w : Word)
  | operator (text : List Char)
  | redirection (stream : Nat) (kind : RedirectionKind)
  | bad (complaint : String)
  deriving DecidableEq, Repr

structure Token where
  line : Nat
  kind : TokenKind
  deriving DecidableEq, Repr

namespace Token

def isNameStart (c : Char) : Bool := c.isAlpha || c = '_'

def isNameChar (c : Char) : Bool := c.isAlphanum || c = '_'

/-- Characters that end an unquoted word. -/
def endsWord (c : Char) : Bool :=
  [' ', '\t', '\n', ';', '&', '|', '(', ')', '<', '>'].contains c

def unterminated : String := "Syntax error: Unterminated quoted string"

def numberOf (digits : List Char) : Nat :=
  digits.foldl (fun n c => 10 * n + (c.toNat - '0'.toNat)) 0

/-! ## Parameters -/

def parameterOf (name : List Char) : Parameter :=
  match name with
  | ['@'] => .all false
  | ['*'] => .all true
  | ['#'] => .count
  | ['?'] => .status
  | ['$'] => .process
  | c :: _ => if c.isDigit then .positional (numberOf name) else .variable name
  | [] => .variable []

/-- The name in front of a text between braces, and what follows it. -/
def cutName (text : List Char) : List Char × List Char :=
  match text with
  | c :: rest =>
    if isNameStart c then (text.takeWhile isNameChar, text.dropWhile isNameChar)
    else if c.isDigit then (text.takeWhile Char.isDigit, text.dropWhile Char.isDigit)
    else ([c], rest)
  | [] => ([], [])

/-- What follows the name of a parameter between braces. -/
def expansionOf : List Char → Expansion
  | [] => .plain
  | ':' :: '-' :: text => .orElse true text
  | '-' :: text => .orElse false text
  | '%' :: '%' :: pattern => .without true true pattern
  | '%' :: pattern => .without true false pattern
  | '#' :: '#' :: pattern => .without false true pattern
  | '#' :: pattern => .without false false pattern
  | _ => .plain

/-- The part that a text between braces stands for. -/
def bracedPart (text : List Char) (quoted : Bool) : Part :=
  match text with
  | '#' :: c :: rest =>
    .parameter (parameterOf (c :: rest)) .length quoted
  | _ =>
    let (name, rest) := cutName text
    .parameter (parameterOf name) (expansionOf rest) quoted

/-- The text up to the bracket that closes one opened before, and what follows it. -/
def untilClosed (opening closing : Char) : Nat → List Char → Option (List Char × List Char)
  | _, [] => none
  | depth, '\\' :: c :: rest =>
    (untilClosed opening closing depth rest).map fun (a, b) => ('\\' :: c :: a, b)
  | depth, c :: rest =>
    if c = closing then
      match depth with
      | 0 => some ([], rest)
      | depth + 1 => (untilClosed opening closing depth rest).map fun (a, b) => (c :: a, b)
    else
      (untilClosed opening closing (if c = opening then depth + 1 else depth) rest).map
        fun (a, b) => (c :: a, b)

/-- The part behind a dollar sign, and what follows it. -/
def dollar (text : List Char) (quoted : Bool) : Except String (Part × List Char) :=
  match text with
  | '\x7b' :: rest =>
    match untilClosed '\x7b' '\x7d' 0 rest with
    | some (inner, rest) => .ok (bracedPart inner quoted, rest)
    | none => .error "Syntax error: Missing '\x7d'"
  | '(' :: rest =>
    match untilClosed '(' ')' 0 rest with
    | some (script, rest) => .ok (.output script quoted, rest)
    | none => .error "Syntax error: end of file unexpected (expecting \")\")"
  | c :: rest =>
    if isNameStart c then
      .ok (.parameter (.variable (text.takeWhile isNameChar)) .plain quoted,
        text.dropWhile isNameChar)
    else if c.isDigit || ['@', '*', '#', '?', '$'].contains c then
      .ok (.parameter (parameterOf [c]) .plain quoted, rest)
    else .ok (.literal ['$'] quoted, text)
  | [] => .ok (.literal ['$'] quoted, [])

/-! ## Words -/

/-- Whether a backslash before a character is taken away between double quotes. -/
def isEscapable (c : Char) : Bool := ['$', '\x60', '"', '\\'].contains c

/-- Reads up to the closing double quote. -/
def double : Nat → List Char → Except String (Word × List Char)
  | 0, _ => .error unterminated
  | _, [] => .error unterminated
  | _ + 1, '"' :: rest => .ok ([.literal [] true], rest)
  | n + 1, '\\' :: '\n' :: rest => double n rest
  | n + 1, '\\' :: c :: rest => do
    let (w, rest) ← double n rest
    return (.literal (if isEscapable c then [c] else ['\\', c]) true :: w, rest)
  | n + 1, '$' :: rest => do
    let (part, rest) ← dollar rest true
    let (w, rest) ← double n rest
    return (part :: w, rest)
  | n + 1, '\x60' :: rest => do
    match untilClosed '\x60' '\x60' 0 rest with
    | some (script, rest) =>
      let (w, rest) ← double n rest
      return (.output script true :: w, rest)
    | none => .error unterminated
  | n + 1, c :: rest => do
    let (w, rest) ← double n rest
    return (.literal [c] true :: w, rest)

/-- Reads a word up to a character that ends it. -/
def word : Nat → List Char → Except String (Word × List Char)
  | 0, text => .ok ([], text)
  | _, [] => .ok ([], [])
  | n + 1, c :: rest =>
    if endsWord c then .ok ([], c :: rest)
    else do
      let (front, rest) ← match c, rest with
        | '\\', '\n' :: rest => pure ([], rest)
        | '\\', d :: rest => pure ([Part.literal [d] true], rest)
        | '\'', rest =>
          match Text.cut? '\'' rest with
          | some (text, rest) => pure ([Part.literal text true], rest)
          | none => .error unterminated
        | '"', rest => double n rest
        | '$', rest => do
          let (part, rest) ← dollar rest false
          pure ([part], rest)
        | '\x60', rest =>
          match untilClosed '\x60' '\x60' 0 rest with
          | some (script, rest) => pure ([Part.output script false], rest)
          | none => .error unterminated
        | c, rest => pure ([Part.literal [c] false], rest)
      let (w, rest) ← word n rest
      return (front ++ w, rest)

/-- A text as the inside of double quotes. -/
def wordOfText (quoted : Bool) (text : List Char) : Word :=
  let read := if quoted then double (text.length + 2) (text ++ ['"']) else word text.length text
  match read with
  | .ok (w, _) => w
  | .error _ => [.literal text true]

/-! ## Scripts -/

/-- An operator or a redirection in front of a text, and what follows it. -/
def cutOperator? (text : List Char) : Option (TokenKind × List Char) :=
  match text with
  | '\n' :: rest => some (.operator ['\n'], rest)
  | '&' :: '&' :: rest => some (.operator ['&', '&'], rest)
  | '|' :: '|' :: rest => some (.operator ['|', '|'], rest)
  | '>' :: '>' :: rest => some (.redirection 1 .append, rest)
  | '>' :: '&' :: rest => some (.redirection 1 .same, rest)
  | '<' :: '&' :: rest => some (.redirection 0 .same, rest)
  | '>' :: '|' :: rest => some (.redirection 1 .write, rest)
  | '>' :: rest => some (.redirection 1 .write, rest)
  | '<' :: rest => some (.redirection 0 .read, rest)
  | c :: rest =>
    if [';', '&', '|', '(', ')'].contains c then some (.operator [c], rest) else none
  | [] => none

/-- A redirection with the number of its stream in front. -/
def cutNumbered? (text : List Char) : Option (TokenKind × List Char) :=
  match text.takeWhile Char.isDigit with
  | [] => none
  | digits =>
    match cutOperator? (text.dropWhile Char.isDigit) with
    | some (.redirection _ kind, rest) => some (.redirection (numberOf digits) kind, rest)
    | _ => none

def countLines (text : List Char) : Nat := text.count '\n'

def tokens : Nat → Nat → List Char → List Token
  | 0, _, _ => []
  | _, _, [] => []
  | n + 1, line, c :: rest =>
    if c = ' ' ∨ c = '\t' then tokens n line rest
    else if c = '#' then tokens n line (rest.dropWhile (· ≠ '\n'))
    else if c = '\\' ∧ rest.head? = some '\n' then tokens n (line + 1) (rest.drop 1)
    else match (cutNumbered? (c :: rest)).or (cutOperator? (c :: rest)) with
      | some (kind, rest) =>
        ⟨line, kind⟩ :: tokens n (if kind = .operator ['\n'] then line + 1 else line) rest
      | none =>
        match word (rest.length + 1) (c :: rest) with
        | .ok (w, after) =>
          let used := countLines (c :: rest) - countLines after
          ⟨line, .word w⟩ :: tokens n (line + used) after
        | .error complaint => [⟨line + countLines rest, .bad complaint⟩]

def ofScript (script : List Char) : List Token := tokens (script.length + 1) 1 script

end Token
end Shell
end JavaStubs
