import JavaStubs.Yaml.BlockScalar
import JavaStubs.Yaml.FlowScalar
import JavaStubs.Yaml.Tag

/-!
# The lexer

Outside flow collections the column of a line opens and closes block collections. Whether something
is the key of a mapping is only known at the colon after it, so the lexer remembers where a key may
have begun, one place for each level of flow collections, and then puts the tokens for it there.
Such a place is forgotten at the end of its line and after 1024 characters. A place at the column of
an open block collection has to turn out to be a key.
-/

namespace JavaStubs
namespace Yaml

inductive ScalarStyle
  | plain | singleQuoted | doubleQuoted | literal | folded
  deriving DecidableEq, Repr

inductive Token
  | versionDirective (major minor : Nat)
  /-- A handle and the text that it stands for. -/
  | tagDirective (handle meaning : String)
  | documentStart
  | documentEnd
  | blockSequenceStart
  | blockMappingStart
  | blockEnd
  | flowSequenceStart
  | flowSequenceEnd
  | flowMappingStart
  | flowMappingEnd
  | blockEntry
  | flowEntry
  | key
  | value
  | alias (name : String)
  | anchor (name : String)
  | tag (handle suffix : String)
  | scalar (style : ScalarStyle) (text : String)
  deriving DecidableEq, Repr

/-- A place where a key may have begun: how many tokens came before it, and where it stands. -/
structure PossibleKey where
  position : Nat
  line : Nat
  column : Nat
  required : Bool
  deriving Repr

/-- `indents` are the columns of the open block collections, innermost first; `keys` are the
possible keys of the levels of flow collections, innermost first and the one outside of them last.
-/
structure Lexer where
  input : Input
  tokens : Array Token
  indents : List Nat
  keys : List (Option PossibleKey)
  keyAllowed : Bool

namespace Lexer

def start (input : Input) : Lexer := ⟨input, #[], [], [none], true⟩

def inFlow (l : Lexer) : Bool := 1 < l.keys.length

/-- The least column to which the content of the innermost block collection may go. -/
def leastColumn (l : Lexer) : Nat :=
  match l.indents with
  | [] => 0
  | column :: _ => column + 1

def push (l : Lexer) (t : Token) : Lexer := { l with tokens := l.tokens.push t }

def drop (l : Lexer) (n : Nat) : Lexer := { l with input := l.input.drop n }

/-- Skips blanks, comments and line ends. Outside flow collections a key may begin on a new line. A
tab counts as a blank only where no key may begin. -/
def skipGap : Nat → Lexer → Lexer
  | 0, l => l
  | fuel + 1, l =>
    match l.input with
    | [] => l
    | c :: rest =>
      if c.column = 0 ∧ c.char = '\uFEFF' then skipGap fuel { l with input := rest }
      else if c.char = ' ' ∨ (c.char = '\t' ∧ (l.inFlow ∨ !l.keyAllowed)) then
        skipGap fuel { l with input := rest }
      else if c.char = '#' then
        skipGap fuel { l with input := dropChars (fun d => !isBreak d) rest }
      else if isBreak c.char then
        skipGap fuel { l with input := rest, keyAllowed := l.keyAllowed || !l.inFlow }
      else l

/-- Forgets a possible key that the place has left behind; one that is required must not be. -/
def refresh (place : Spot) : Option PossibleKey → Option (Option PossibleKey)
  | none => some none
  | some k =>
    if k.line < place.line ∨ k.column + 1024 < place.column then
      if k.required then none else some none
    else some (some k)

/-- Forgets all possible keys that the next place has left behind. -/
def dropStaleKeys (l : Lexer) : Option Lexer :=
  match l.input with
  | [] => some l
  | place :: _ => do return { l with keys := ← l.keys.mapM (refresh place) }

/-- Closes the block collections that are further in than the given column, or all of them. -/
def closeBlocks (column : Option Nat) (l : Lexer) : Lexer :=
  if l.inFlow then l else go l.indents l
where
  go : List Nat → Lexer → Lexer
    | [], l => { l with indents := [] }
    | indent :: outer, l =>
      if (column.map fun c => decide (c < indent)).getD true then go outer (l.push .blockEnd)
      else { l with indents := indent :: outer }

/-- Opens a block collection at a column further in than those that are open. Its token goes to the
given position among the tokens. -/
def openBlock (column position : Nat) (t : Token) (l : Lexer) : Lexer :=
  if l.inFlow then l
  else if l.leastColumn ≤ column then
    { l with indents := column :: l.indents, tokens := l.tokens.insertIdxIfInBounds position t }
  else l

/-- Gives up the possible key of the innermost level. -/
def dropKey (l : Lexer) : Option Lexer :=
  match l.keys with
  | some k :: outer => if k.required then none else some { l with keys := none :: outer }
  | _ => some l

/-- Remembers the next place as one where a key may begin. -/
def saveKey (l : Lexer) : Option Lexer :=
  match l.input with
  | place :: _ =>
    if l.keyAllowed then do
      let required := !l.inFlow && l.indents.head? == some place.column
      let l ← l.dropKey
      return { l with
        keys := some ⟨l.tokens.size, place.line, place.column, required⟩ :: l.keys.tail }
    else some l
  | [] => some l

def withKeyAllowed (allowed : Bool) (l : Lexer) : Lexer := { l with keyAllowed := allowed }

def column (l : Lexer) : Nat :=
  match l.input with
  | place :: _ => place.column
  | [] => 0

/-- The line after a percent sign at the start of a line. -/
def lexDirective (l : Lexer) : Option Lexer := do
  let l ← (l.closeBlocks none).dropKey
  let (word, rest) := spanChars isWordChar (l.input.drop 1)
  if !atGap rest then none
  else if word = "YAML".toList then
    let (major, minor, rest) ← readVersion rest
    return { l.push (.versionDirective major minor) with input := rest, keyAllowed := false }
  else if word = "TAG".toList then
    let (handle, meaning, rest) ← readTagMeaning rest
    return { l.push (.tagDirective handle meaning) with input := rest, keyAllowed := false }
  else none

def lexDocumentMarker (t : Token) (l : Lexer) : Option Lexer := do
  let l ← (l.closeBlocks none).dropKey
  return ((l.push t).drop 3).withKeyAllowed false

def openFlow (t : Token) (l : Lexer) : Option Lexer := do
  let l ← l.saveKey
  return { (l.push t).drop 1 with keys := none :: l.keys, keyAllowed := true }

def closeFlow (t : Token) (l : Lexer) : Option Lexer := do
  let l ← l.dropKey
  let keys := if l.inFlow then l.keys.tail else l.keys
  return { (l.push t).drop 1 with keys := keys, keyAllowed := false }

def lexFlowEntry (l : Lexer) : Option Lexer := do
  let l ← l.dropKey
  return ((l.push .flowEntry).drop 1).withKeyAllowed true

/-- Outside flow collections an entry or a key begins a block collection, unless one is open at its
column, and it may stand only where a key may begin. -/
def beginBlock (t : Token) (l : Lexer) : Option Lexer :=
  if l.inFlow then some l
  else if !l.keyAllowed then none
  else some (l.openBlock l.column l.tokens.size t)

def lexBlockEntry (l : Lexer) : Option Lexer := do
  let l ← (← l.beginBlock .blockSequenceStart).dropKey
  return ((l.push .blockEntry).drop 1).withKeyAllowed true

def lexKey (l : Lexer) : Option Lexer := do
  let l ← (← l.beginBlock .blockMappingStart).dropKey
  return ((l.push .key).drop 1).withKeyAllowed (!l.inFlow)

/-- A colon: what began at the possible key was a key. -/
def lexValue (l : Lexer) : Option Lexer :=
  match l.keys with
  | some k :: outer =>
    let l := { l with
      keys := none :: outer, tokens := l.tokens.insertIdxIfInBounds k.position .key }
    let l := l.openBlock k.column k.position .blockMappingStart
    some (((l.push .value).drop 1).withKeyAllowed false)
  | _ => do
    let l ← l.beginBlock .blockMappingStart
    return ((l.push .value).drop 1).withKeyAllowed (!l.inFlow)

/-- Characters that may follow the name of an anchor or an alias. -/
def endsName (s : Input) : Bool := atGap s || startsWith "?:,]\x7d%@`".toList.contains s

def lexName (make : String → Token) (l : Lexer) : Option Lexer := do
  let l ← l.saveKey
  let (name, rest) := spanChars isWordChar (l.input.drop 1)
  if name.isEmpty || !endsName rest then none
  else return { l.push (make (String.ofList name)) with input := rest, keyAllowed := false }

def lexTag (l : Lexer) : Option Lexer := do
  let l ← l.saveKey
  let (handle, suffix, rest) ← readTag l.inFlow l.input
  return { l.push (.tag handle suffix) with input := rest, keyAllowed := false }

def lexBlockScalar (literal : Bool) (l : Lexer) : Option Lexer := do
  let l ← l.dropKey
  let (text, rest) ← readBlock literal l.leastColumn (l.input.drop 1)
  let style : ScalarStyle := if literal then .literal else .folded
  return { l.push (.scalar style (String.ofList text)) with input := rest, keyAllowed := true }

def lexQuoted (single : Bool) (l : Lexer) : Option Lexer := do
  let l ← l.saveKey
  let (text, rest) ← readQuoted single (l.input.length + 1) [] (l.input.drop 1)
  let style : ScalarStyle := if single then .singleQuoted else .doubleQuoted
  return { l.push (.scalar style (String.ofList text)) with input := rest, keyAllowed := false }

def lexPlain (l : Lexer) : Option Lexer := do
  let l ← l.saveKey
  let read ← readPlain l.inFlow l.leastColumn (l.input.length + 1) [] [] l.input
  return { l.push (.scalar .plain (String.ofList read.text)) with
    input := read.rest, keyAllowed := read.brokenLine }

/-- Characters that begin no plain scalar, unless the rules of `startsPlain` let them. -/
def isIndicator (c : Char) : Bool := "-?:,[]\x7b\x7d#&*!|>'\"%@`".toList.contains c

/-- Whether a plain scalar may begin with `c` before `rest`. -/
def startsPlain (flow : Bool) (c : Char) (rest : Input) : Bool :=
  !isIndicator c || (c = '-' && !startsWith isBlank rest)
    || (!flow && (c = '?' || c = ':') && !atGap rest)

/-- The next token, given the place where it begins. -/
def lexToken (l : Lexer) (c : Spot) (rest : Input) : Option Lexer :=
  if c.column = 0 ∧ c.char = '%' then l.lexDirective
  else if atMarker '-' l.input then l.lexDocumentMarker .documentStart
  else if atMarker '.' l.input then l.lexDocumentMarker .documentEnd
  else match c.char with
    | '[' => l.openFlow .flowSequenceStart
    | '\x7b' => l.openFlow .flowMappingStart
    | ']' => l.closeFlow .flowSequenceEnd
    | '\x7d' => l.closeFlow .flowMappingEnd
    | ',' => l.lexFlowEntry
    | '*' => l.lexName .alias
    | '&' => l.lexName .anchor
    | '!' => l.lexTag
    | '\'' => l.lexQuoted true
    | '"' => l.lexQuoted false
    | other =>
      if other = '-' ∧ atGap rest then l.lexBlockEntry
      else if other = '?' ∧ (l.inFlow ∨ atGap rest) then l.lexKey
      else if other = ':' ∧ (l.inFlow ∨ atGap rest) then l.lexValue
      else if other = '|' ∧ !l.inFlow then l.lexBlockScalar true
      else if other = '>' ∧ !l.inFlow then l.lexBlockScalar false
      else if startsPlain l.inFlow other rest then l.lexPlain
      else none

/-- All tokens of the input. Every round takes at least one character, so that `fuel` above the
length of the input is never used up. -/
def finish : Nat → Lexer → Option (Array Token)
  | 0, _ => none
  | fuel + 1, l => do
    let l ← (skipGap (l.input.length + 1) l).dropStaleKeys
    match l.input with
    | [] => return (← (l.closeBlocks none).dropKey).tokens
    | c :: rest => finish fuel (← (l.closeBlocks (some c.column)).lexToken c rest)

end Lexer

def tokens? (s : String) : Option (List Token) := do
  let input ← Input.ofText? s
  return (← Lexer.finish (input.length + 1) (Lexer.start input)).toList

end Yaml
end JavaStubs
