/-!
# Places in a YAML text

Every character is paired with its line and column. The ends of lines are made uniform first: a
carriage return, a line feed, both together and the next-line character are one line feed, while the
line and paragraph separators stay what they are.
-/

namespace JavaStubs
namespace Yaml

/-- A character and where it stands. -/
structure Spot where
  char : Char
  line : Nat
  column : Nat
  deriving DecidableEq, Repr

abbrev Input := List Spot

def isPermitted (c : Char) : Bool :=
  let n := c.toNat
  n == 0x09 || n == 0x0A || n == 0x0D || (0x20 ≤ n && n ≤ 0x7E) || n == 0x85
    || (0xA0 ≤ n && n ≤ 0xFFFD) || 0x10000 ≤ n

/-- Makes the ends of lines uniform. -/
def uniformBreaks : List Char → List Char
  | '\r' :: '\n' :: rest => '\n' :: uniformBreaks rest
  | c :: rest => (if c = '\r' ∨ c = '\u0085' then '\n' else c) :: uniformBreaks rest
  | [] => []

def isBreak (c : Char) : Bool := c = '\n' || c = '\u2028' || c = '\u2029'

def isBlank (c : Char) : Bool := c = ' ' || c = '\t'

def isBlankOrBreak (c : Char) : Bool := isBlank c || isBreak c

/-- Letters, digits, `-` and `_` of the ASCII range. -/
def isWordChar (c : Char) : Bool := c.isAlphanum || c = '-' || c = '_'

/-- Numbers the lines and columns of a text. -/
def locate (line column : Nat) : List Char → Input
  | [] => []
  | c :: rest =>
    ⟨c, line, column⟩ ::
      if isBreak c then locate (line + 1) 0 rest else locate line (column + 1) rest

/-- The places of a text, unless it holds a character that is not permitted. -/
def Input.ofText? (s : String) : Option Input :=
  if s.toList.all isPermitted then some (locate 0 0 (uniformBreaks s.toList)) else none

def startsWith (p : Char → Bool) : Input → Bool
  | [] => false
  | c :: _ => p c.char

def startsWithChar (c : Char) (s : Input) : Bool := startsWith (· = c) s

/-- Whether a blank, a line end or the end of the text comes next. -/
def atGap : Input → Bool
  | [] => true
  | c :: _ => isBlankOrBreak c.char

/-- Whether a line end or the end of the text comes next. -/
def atLineEnd : Input → Bool
  | [] => true
  | c :: _ => isBreak c.char

/-- Whether a line starts here with three times the given character and a gap after them. -/
def atMarker (mark : Char) : Input → Bool
  | a :: b :: c :: rest =>
    a.column = 0 && a.char = mark && b.char = mark && c.char = mark && atGap rest
  | _ => false

/-- Whether a line starts here that begins or ends a document. -/
def atDocumentMarker (s : Input) : Bool := atMarker '-' s || atMarker '.' s

def chars (s : Input) : List Char := s.map Spot.char

/-- The places up to the first one whose character is not in a class, and the rest. -/
def spanChars (p : Char → Bool) (s : Input) : List Char × Input :=
  let (front, rest) := s.span fun c => p c.char
  (front.map Spot.char, rest)

def dropChars (p : Char → Bool) (s : Input) : Input := s.dropWhile fun c => p c.char

end Yaml
end JavaStubs
