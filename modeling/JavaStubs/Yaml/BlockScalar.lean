import JavaStubs.Yaml.FlowScalar

/-!
# Block scalars

A block scalar is the run of lines that are indented as far as its first line, or as far as its
header says. A literal scalar keeps its line ends. A folded one turns a single line end between two
lines that start with no blank into a space. The header also says what becomes of the line ends at
the end.
-/

namespace JavaStubs
namespace Yaml

/-- What becomes of the line ends at the end of a block scalar. -/
inductive Chomping
  | strip | clip | keep
  deriving DecidableEq, Repr

/-- The header of a block scalar: the chomping, and the indentation if it is given. -/
structure BlockHeader where
  chomping : Chomping
  indent : Option Nat

def chompingOf? : Char → Option Chomping
  | '+' => some .keep
  | '-' => some .strip
  | _ => none

/-- A digit of a header; the digit zero is refused. -/
def readIndent (s : Input) : Option (Option Nat × Input) :=
  match s with
  | c :: rest =>
    if c.char = '0' then none
    else if c.char.isDigit then some (some (c.char.toNat - 48), rest)
    else some (none, s)
  | [] => some (none, s)

def readChomping (s : Input) : Chomping × Input :=
  match s with
  | c :: rest =>
    match chompingOf? c.char with
    | some chomping => (chomping, rest)
    | none => (.clip, s)
  | [] => (.clip, s)

/-- The header after the indicator, with its line end taken. A comment may follow it. -/
def readHeader (s : Input) : Option (BlockHeader × Input) := do
  let (header, rest) ←
    if startsWith (fun c => (chompingOf? c).isSome) s then do
      let (chomping, rest) := readChomping s
      let (indent, rest) ← readIndent rest
      pure (BlockHeader.mk chomping indent, rest)
    else do
      let (indent, rest) ← readIndent s
      let (chomping, rest) := if indent.isSome then readChomping rest else (.clip, rest)
      pure (BlockHeader.mk chomping indent, rest)
  let rest := dropChars isBlank rest
  let rest := if startsWithChar '#' rest then dropChars (fun c => !isBreak c) rest else rest
  if atLineEnd rest then return (header, rest.drop 1) else none

/-- Takes empty lines and the indentation of the next line that is not empty: the line ends, the
largest column met, and the rest. Without a given indentation all spaces are taken. A tab in the
indentation is refused. -/
def takeEmptyLines (indent : Option Nat) :
    Nat → List Char → Input → Option (List Char × Nat × Input)
  | widest, breaks, [] => some (breaks.reverse, widest, [])
  | widest, breaks, c :: rest =>
    let inIndent : Bool := match indent with
      | none => true
      | some n => decide (c.column < n)
    if inIndent && c.char = ' ' then takeEmptyLines indent (max widest (c.column + 1)) breaks rest
    else if inIndent && c.char = '\t' then none
    else if isBreak c.char then takeEmptyLines indent (max widest c.column) (c.char :: breaks) rest
    else some (breaks.reverse, max widest c.column, c :: rest)

/-- What is known between two lines of a block scalar: the text so far, backwards; the end of the
last line; the line ends of the empty lines after it; and whether the last line starts with a
blank. -/
structure BlockState where
  acc : List Char
  lineBreak : List Char
  emptyLines : List Char
  blankStart : Bool

/-- What stands between the last line and the next one. -/
def BlockState.joint (st : BlockState) (literal nextBlank : Bool) : List Char :=
  if !literal && st.lineBreak.head? == some '\n' && !st.blankStart && !nextBlank then
    if st.emptyLines.isEmpty then [' '] else st.emptyLines
  else st.lineBreak ++ st.emptyLines

/-- Reads the lines of a block scalar that are indented to the given column. -/
def readLines (literal : Bool) (indent : Nat) :
    Nat → BlockState → Input → Option (BlockState × Input)
  | 0, _, _ => none
  | fuel + 1, st, s =>
    match s with
    | [] => some (st, [])
    | c :: _ =>
      if c.column ≠ indent then some (st, s)
      else
        let (line, rest) := spanChars (fun d => !isBreak d) s
        let acc := line.reverse ++ (st.joint literal (isBlank c.char)).reverse ++ st.acc
        let lineBreak := chars (rest.take 1)
        match takeEmptyLines (some indent) 0 [] (rest.drop 1) with
        | none => none
        | some (emptyLines, _, rest) =>
          readLines literal indent fuel ⟨acc, lineBreak, emptyLines, isBlank c.char⟩ rest

/-- The text at the end of a block scalar. -/
def BlockState.finish (st : BlockState) (chomping : Chomping) : List Char :=
  let tail := match chomping with
    | .strip => []
    | .clip => st.lineBreak
    | .keep => st.lineBreak ++ st.emptyLines
  st.acc.reverse ++ tail

/-- Reads a block scalar from after its indicator; `least` is the least column of its lines. -/
def readBlock (literal : Bool) (least : Nat) (s : Input) : Option (List Char × Input) := do
  let (header, rest) ← readHeader s
  let given := header.indent.map fun n => (least - 1) + n
  let (emptyLines, widest, rest) ← takeEmptyLines given 0 [] rest
  let indent := given.getD (max widest (max least 1))
  let (st, rest) ← readLines literal indent (rest.length + 1) ⟨[], [], emptyLines, false⟩ rest
  return (st.finish header.chomping, rest)

end Yaml
end JavaStubs
