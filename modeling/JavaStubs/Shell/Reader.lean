import JavaStubs.Shell.Token

/-!
# Reading scripts

Commands are read from tokens line by line, so that those in front of a mistake can still be carried
out.
-/

namespace JavaStubs
namespace Shell

/-- What is wrong with a script, and in which line. -/
structure Complaint where
  line : Nat
  text : String
  deriving DecidableEq, Repr

/-- The text of a word without quotes, parameters and outputs. -/
def Word.plain? : Word → Option (List Char)
  | [] => some []
  | .literal text false :: rest => (Word.plain? rest).map (text ++ ·)
  | _ => none

/-- Words that begin or end a command where one may stand. -/
def keywords : List String :=
  ["if", "then", "elif", "else", "fi", "for", "do", "done", "while", "until", "\x7b", "\x7d", "!"]

namespace Reader

/-- A step that reads from the tokens in front of it. -/
abbrev Read := StateT (List Token) (Except Complaint)

def keywordOf? : List Token → Option String
  | ⟨_, .word w⟩ :: _ => (Word.plain? w).bind fun text => keywords.find? fun k => k.toList = text
  | _ => none

def operatorOf? : List Token → Option (List Char)
  | ⟨_, .operator text⟩ :: _ => some text
  | _ => none

/-- How a complaint names the next token. -/
def describe : List Token → String
  | [] => "end of file"
  | ⟨_, .operator ['\n']⟩ :: _ => "newline"
  | ⟨_, .operator text⟩ :: _ => "\"" ++ String.ofList text ++ "\""
  | ⟨_, .redirection _ _⟩ :: _ => "redirection"
  | ts =>
    match keywordOf? ts with
    | some k => "\"" ++ k ++ "\""
    | none => "word"

/-- The complaint about tokens with which nothing can go on. -/
def complaintOf : List Token → Complaint
  | ⟨line, .bad text⟩ :: _ => ⟨line, text⟩
  | ⟨line, kind⟩ :: ts =>
    ⟨line, "Syntax error: " ++ describe (⟨line, kind⟩ :: ts) ++ " unexpected"⟩
  | [] => ⟨0, "Syntax error: end of file unexpected"⟩

def unexpected {α : Type} : Read α := fun ts => .error (complaintOf ts)

/-- The complaint that something else should have come. -/
def unexpectedFor {α : Type} (wanted : String) : Read α := fun ts =>
  let e := complaintOf ts
  match ts with
  | ⟨_, .bad _⟩ :: _ => .error e
  | _ => .error { e with text := e.text ++ " (expecting \"" ++ wanted ++ "\")" }

def keyword? : Read (Option String) := return keywordOf? (← get)

def sees (operator : List Char) : Read Bool := return operatorOf? (← get) = some operator

def skip : Read Unit := modify (List.drop 1)

def dropNewlines : List Token → List Token
  | ⟨line, .operator text⟩ :: rest =>
    if text = ['\n'] then dropNewlines rest else ⟨line, .operator text⟩ :: rest
  | ts => ts

def skipNewlines : Read Unit := modify dropNewlines

/-- Goes past a separator of commands, if there is one. -/
def skipSeparator : Read Bool := do
  let op := operatorOf? (← get)
  if op = some [';'] || op = some ['&'] || op = some ['\n'] then
    skip
    return true
  return false

/-- Whether a list of commands ends here. -/
def closes : Read Bool := do
  let ts ← get
  match keywordOf? ts with
  | some k => return ["then", "elif", "else", "fi", "do", "done", "\x7d"].contains k
  | none => return ts.isEmpty || operatorOf? ts = some [')']

def expect (k : String) : Read Unit := do
  if (← keyword?) = some k then skip else unexpectedFor k

/-- The words and redirections in front of an operator, and what follows. -/
def splitParts : List Token → Except Complaint ((List Word × List Redirection) × List Token)
  | ⟨_, .word w⟩ :: rest =>
    (splitParts rest).map fun ((words, redirections), ts) => ((w :: words, redirections), ts)
  | ⟨_, .redirection stream kind⟩ :: ⟨_, .word w⟩ :: rest =>
    (splitParts rest).map fun ((words, redirections), ts) =>
      ((words, ⟨stream, kind, w⟩ :: redirections), ts)
  | ⟨_, .redirection _ _⟩ :: rest => .error (complaintOf rest)
  | ⟨line, .bad text⟩ :: _ => .error ⟨line, text⟩
  | ts => .ok (([], []), ts)

def parts : Read (List Word × List Redirection) := splitParts

def line : Read Nat := return ((← get).head?.map Token.line).getD 0

def simple : Read Command := do
  let line ← line
  let (words, redirections) ← parts
  if words.isEmpty && redirections.isEmpty then unexpected
  return .simple line words redirections

/-- The text of a plain word, if that comes next. -/
def plainWord? : Read (Option (List Char)) := do
  match ← get with
  | ⟨_, .word w⟩ :: _ => return Word.plain? w
  | _ => return none

/-- The name of a loop's variable, and its words if there are any. -/
def loopHead : Read (List Char × Option (List Word)) := do
  match ← plainWord? with
  | none => unexpected
  | some name =>
    skip
    let after ← get
    skipNewlines
    if (← plainWord?) = some ['i', 'n'] then
      skip
      let (words, _) ← parts
      return (name, some words)
    set after
    return (name, none)

mutual

/-- Commands up to the end or a token that closes them. -/
def list : Nat → Read Command
  | 0 => unexpected
  | n + 1 => do
    skipNewlines
    if ← closes then return .nothing
    let c ← chain n
    if ← skipSeparator then return .sequence c (← list n)
    if ← closes then return c
    unexpected

/-- Commands joined by the signs for "and" and "or". -/
def chain : Nat → Read Command
  | 0 => unexpected
  | n + 1 => do chainRest n (← pipeline n)

def chainRest : Nat → Command → Read Command
  | 0, _ => unexpected
  | n + 1, c => do
    if ← sees ['&', '&'] then
      skip
      skipNewlines
      chainRest n (.both c (← pipeline n))
    else if ← sees ['|', '|'] then
      skip
      skipNewlines
      chainRest n (.either c (← pipeline n))
    else return c

def pipeline : Nat → Read Command
  | 0 => unexpected
  | n + 1 => do
    if (← keyword?) = some "!" then
      skip
      return .negate (← pipeline n)
    let c ← command n
    if ← sees ['|'] then
      skip
      skipNewlines
      return .pipe c (← pipeline n)
    return c

/-- One command, with the redirections behind it. -/
def command : Nat → Read Command
  | 0 => unexpected
  | n + 1 => do
    let line ← line
    match ← compound? n with
    | none => simple
    | some c =>
      let (words, redirections) ← parts
      if !words.isEmpty then unexpected
      return if redirections.isEmpty then c else .redirected line c redirections

/-- A command made of others, if one begins here. -/
def compound? : Nat → Read (Option Command)
  | 0 => unexpected
  | n + 1 => do
    if ← sees ['('] then
      skip
      let c ← list n
      if !(← sees [')']) then unexpectedFor ")"
      skip
      return some (.subshell c)
    match ← keyword? with
    | none => return none
    | some "if" =>
      skip
      return some (← branch n)
    | some "while" =>
      skip
      return some (← loop n true)
    | some "until" =>
      skip
      return some (← loop n false)
    | some "for" =>
      skip
      let (name, words) ← loopHead
      return some (.each name words (← body n))
    | some "\x7b" =>
      skip
      let c ← list n
      expect "\x7d"
      return some c
    | some _ => unexpected

def branch : Nat → Read Command
  | 0 => unexpected
  | n + 1 => do
    let condition ← list n
    expect "then"
    let yes ← list n
    match ← keyword? with
    | some "elif" =>
      skip
      return .branch condition yes (← branch n)
    | some "else" =>
      skip
      let no ← list n
      expect "fi"
      return .branch condition yes no
    | _ =>
      expect "fi"
      return .branch condition yes .nothing

/-- What follows the word that begins a loop with a condition. -/
def loop : Nat → Bool → Read Command
  | 0, _ => unexpected
  | n + 1, whileTrue => do
    let condition ← list n
    return .repeated whileTrue condition (← body n)

def body : Nat → Read Command
  | 0 => unexpected
  | n + 1 => do
    let _ ← skipSeparator
    skipNewlines
    expect "do"
    let c ← list n
    expect "done"
    return c

end

/-- Reads the commands up to the end of a line. -/
def lineOfCommands : Nat → Read Command
  | 0 => unexpected
  | n + 1 => do
    let c ← chain n
    if (← sees ['\n']) || (← get).isEmpty then
      skip
      return c
    if !(← skipSeparator) then unexpected
    if (← sees ['\n']) || (← get).isEmpty then
      skip
      return c
    return .sequence c (← lineOfCommands n)

def lines : Nat → List Token → List Command × Option Complaint
  | 0, _ => ([], none)
  | n + 1, ts =>
    match dropNewlines ts with
    | [] => ([], none)
    | ts =>
      match (lineOfCommands (8 * ts.length + 8)).run ts with
      | .error e => ([], some e)
      | .ok (c, rest) =>
        let (cs, complaint) := lines n rest
        (c :: cs, complaint)

end Reader

/-- The commands of a script, and what is wrong behind them. -/
def readScript (script : List Char) : List Command × Option Complaint :=
  let ts := Token.ofScript script
  let (commands, complaint) := Reader.lines (ts.length + 1) ts
  (commands, complaint.map fun e =>
    if e.line = 0 then { e with line := script.count '\n' + 1 } else e)

end Shell
end JavaStubs
