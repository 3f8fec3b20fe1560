import JavaStubs.Text.CharTable
import JavaStubs.Text.Hex

/-!
# Classes of characters

A class is given by a table of intervals. Blanks, letters and letters or numbers decide what a type
name may look like; hidden and extending characters decide what a quoted text spells out.
-/

namespace JavaStubs
namespace Text

/-- Whether `n` lies in one of the ascending closed intervals. -/
def inRanges : List (Nat × Nat) → Nat → Bool
  | [], _ => false
  | (lo, hi) :: rest, n => if n < lo then false else n ≤ hi || inRanges rest n

/-- Alphabetic characters of any script. -/
def isLetter (c : Char) : Bool := inRanges CharTable.letterRanges c.toNat

/-- Decimal digits, letter numbers and other numbers of any script. -/
def isNumber (c : Char) : Bool := inRanges CharTable.numberRanges c.toNat

def isLetterOrNumber (c : Char) : Bool := isLetter c || isNumber c

/-- White space of any script. -/
def isBlank (c : Char) : Bool := inRanges CharTable.blankRanges c.toNat

/-- Characters that a reader cannot see. -/
def isHidden (c : Char) : Bool := inRanges CharTable.hiddenRanges c.toNat

/-- Characters that attach to the one before them. -/
def isExtending (c : Char) : Bool := inRanges CharTable.extendingRanges c.toNat

/-- The text without the blanks in front. -/
def trimStart (s : List Char) : List Char := s.dropWhile isBlank

/-- The text without the blanks at either end. -/
def trim (s : List Char) : List Char :=
  ((s.dropWhile isBlank).reverse.dropWhile isBlank).reverse

namespace Quoted

/-- The code point of a character in braces. -/
def codePoint (c : Char) : List Char :=
  "\\u\x7b".toList ++ lowerHex c.toNat ++ ['\x7d']

def quoteChar (c : Char) : List Char :=
  if c = '"' then ['\\', '"']
  else if c = '\\' then ['\\', '\\']
  else if c = '\n' then ['\\', 'n']
  else if c = '\r' then ['\\', 'r']
  else if c = '\t' then ['\\', 't']
  else if c = '\x00' then ['\\', '0']
  else if isExtending c || isHidden c then codePoint c
  else [c]

def quote (s : String) : String :=
  String.ofList ('"' :: s.toList.flatMap quoteChar ++ ['"'])

end Quoted
end Text
end JavaStubs
