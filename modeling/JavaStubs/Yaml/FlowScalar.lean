import JavaStubs.Text.Hex
import JavaStubs.Yaml.Spot

/-!
# Flow scalars

Inside quotes a run of blanks is kept, unless a line ends in it: then the blanks go away, one line
end becomes a space, and of several line ends the first goes away. A plain scalar is a sequence of
words with runs of blanks and line ends between them. It ends before a comment, before `: `, inside a
flow collection before an indicator, and outside before a line that is not indented.
-/

namespace JavaStubs
namespace Yaml

/-- What stands for the line ends of a run, given the first of them and the others. -/
def foldBreaks (first : Char) (more : List Char) : List Char :=
  if first ≠ '\n' then first :: more
  else if more.isEmpty then [' ']
  else more

/-- What stands for a run of blanks and line ends. -/
def foldRun (run : List Char) : List Char :=
  match run.filter isBreak with
  | [] => run
  | first :: more => foldBreaks first more

def escapeChar? : Char → Option Char
  | '0' => some '\x00'
  | 'a' => some '\x07'
  | 'b' => some '\x08'
  | 't' | '\t' => some '\t'
  | 'n' => some '\n'
  | 'v' => some '\x0b'
  | 'f' => some '\x0c'
  | 'r' => some '\r'
  | 'e' => some '\x1b'
  | ' ' => some ' '
  | '"' => some '"'
  | '/' => some '/'
  | '\\' => some '\\'
  | 'N' => some '\u0085'
  | '_' => some '\u00a0'
  | 'L' => some '\u2028'
  | 'P' => some '\u2029'
  | _ => none

/-- How many hexadecimal digits follow the letter of an escape. -/
def escapeDigits? : Char → Option Nat
  | 'x' => some 2
  | 'u' => some 4
  | 'U' => some 8
  | _ => none

def charOfCode? (n : Nat) : Option Char := if n.isValidChar then some (Char.ofNat n) else none

/-- The character of the escape after a backslash, and how many characters the escape takes. -/
def readEscape (s : Input) : Option (Char × Nat) :=
  match s with
  | [] => none
  | letter :: rest =>
    match escapeDigits? letter.char with
    | some n =>
      let digits := (rest.take n).map Spot.char
      if digits.length < n then none
      else do
        let code ← Text.hexNumber? digits
        return (← charOfCode? code, n + 1)
    | none => (escapeChar? letter.char).map fun c => (c, 1)

/-- Reads a quoted scalar from after its opening quote to its closing quote. The text read so far is
kept backwards. Every step takes at least one character, so that `fuel` above the length of the
input is never used up. -/
def readQuoted (single : Bool) : Nat → List Char → Input → Option (List Char × Input)
  | 0, _, _ => none
  | fuel + 1, acc, s =>
    match s with
    | [] => none
    | c :: rest =>
      if isBlankOrBreak c.char then
        let (run, after) := spanChars isBlankOrBreak s
        if atDocumentMarker after then none
        else readQuoted single fuel ((foldRun run).reverse ++ acc) after
      else if single then
        if c.char = '\'' then
          match rest with
          | d :: more =>
            if d.char = '\'' then readQuoted single fuel ('\'' :: acc) more
            else some (acc.reverse, rest)
          | [] => some (acc.reverse, rest)
        else readQuoted single fuel (c.char :: acc) rest
      else if c.char = '"' then some (acc.reverse, rest)
      else if c.char = '\\' then
        if startsWith isBreak rest then
          let (run, after) := spanChars isBlankOrBreak (rest.drop 1)
          if atDocumentMarker after then none
          else readQuoted single fuel ((run.filter isBreak).reverse ++ acc) after
        else match readEscape rest with
          | some (e, taken) => readQuoted single fuel (e :: acc) (rest.drop taken)
          | none => none
      else readQuoted single fuel (c.char :: acc) rest

/-- Indicators that end a plain scalar inside a flow collection. -/
def isFlowIndicator (c : Char) : Bool :=
  c = ',' || c = '[' || c = ']' || c = '\x7b' || c = '\x7d'

/-- A word read so far, backwards, and what follows it. A colon in a flow collection must not stand
right before an indicator. -/
def readWord (flow : Bool) (acc : List Char) : Input → Option (List Char × Input)
  | [] => some (acc, [])
  | c :: rest =>
    if isBlankOrBreak c.char then some (acc, c :: rest)
    else if flow ∧ c.char = ':' ∧ startsWith (fun d => isFlowIndicator d || d = '?') rest then none
    else if (c.char = ':' ∧ atGap rest) ∨ (flow ∧ isFlowIndicator c.char) then some (acc, c :: rest)
    else readWord flow (c.char :: acc) rest

/-- Whether a run has a tab in its indentation: after a line end and left of the given column. -/
def hasStrayTab (indent : Nat) (afterBreak : Bool) : Input → Bool
  | [] => false
  | c :: rest =>
    (afterBreak && c.char = '\t' && c.column < indent)
      || hasStrayTab indent (afterBreak || isBreak c.char) rest

/-- Whether the next place is left of the given column. -/
def isLeftOf (indent : Nat) : Input → Bool
  | [] => false
  | c :: _ => c.column < indent

/-- A plain scalar, whether a line ended after its last word, and the rest. -/
structure PlainRead where
  text : List Char
  brokenLine : Bool
  rest : Input

/-- Reads the words of a plain scalar. The text read so far is kept backwards, and `gap` is the run
before the next word. -/
def readPlain (flow : Bool) (indent : Nat) : Nat → List Char → List Char → Input → Option PlainRead
  | 0, _, _, _ => none
  | fuel + 1, acc, gap, s =>
    let stop (rest : Input) : PlainRead := ⟨acc.reverse, gap.any isBreak, rest⟩
    if atDocumentMarker s || startsWithChar '#' s then some (stop s)
    else match readWord flow [] s with
      | none => none
      | some ([], _) => some (stop s)
      | some (word, after) =>
        let acc := word ++ (foldRun gap).reverse ++ acc
        if !startsWith isBlankOrBreak after then some ⟨acc.reverse, false, after⟩
        else
          let run := after.takeWhile fun c => isBlankOrBreak c.char
          let rest := dropChars isBlankOrBreak after
          if hasStrayTab indent false run then none
          else if !flow && isLeftOf indent rest then
            some ⟨acc.reverse, (chars run).any isBreak, rest⟩
          else readPlain flow indent fuel acc (chars run) rest

end Yaml
end JavaStubs
