import JavaStubs.Text.Hex
import JavaStubs.Text.Unicode

/-!
# Escaped text

Every UTF-16 code unit is written as `\u` and four upper-case hexadecimal digits, so that the
result is plain ASCII and reads the same in every encoding. A sink takes the bytes until its room is
used up. A write that does not fit leaves what fitted in the sink and fails, and so does every later
write of at least one byte.
-/

namespace JavaStubs
namespace Text

/-- The four upper-case digits of a code unit. -/
def hexQuad (u : Nat) : List Char :=
  [upperHexDigit (u / 0x1000), upperHexDigit (u / 0x100 % 0x10), upperHexDigit (u / 0x10 % 0x10),
    upperHexDigit (u % 0x10)]

/-- One code unit as a six-character group. -/
def escapeUnit (u : Nat) : List Char := '\\' :: 'u' :: hexQuad u

/-- One group for each code unit of the text. -/
def escapeChars (s : List Char) : List Char := (Utf16.units s).flatMap escapeUnit

def escape (s : String) : String := String.ofList (escapeChars s.toList)

/-- The value of the four characters of a group. A plus sign may stand in place of the first digit.
-/
def quadValue? (a b c d : Char) : Option Nat :=
  if a = '+' then hexNumber? [b, c, d] else hexNumber? [a, b, c, d]

/-- The code units of a text made of groups only. -/
def unitsOfEscaped? : List Char → Option (List Nat)
  | [] => some []
  | '\\' :: 'u' :: a :: b :: c :: d :: rest => do
    let u ← quadValue? a b c d
    return u :: (← unitsOfEscaped? rest)
  | _ => none

def unescapeChars? (s : List Char) : Option (List Char) :=
  (unitsOfEscaped? s).bind Utf16.decode?

/-- The text that was escaped, if the argument is a sequence of groups that spell one. -/
def unescape? (s : String) : Option String :=
  (unescapeChars? s.toList).map String.ofList

theorem escapeChars_append (s t : List Char) :
    escapeChars (s ++ t) = escapeChars s ++ escapeChars t := by
  simp [escapeChars, Utf16.units]

/-- Bytes written so far, with room for `limit` bytes in total if there is a limit. -/
structure Sink where
  written : List UInt8
  limit : Option Nat
  deriving DecidableEq, Repr

namespace Sink

def new (limit : Option Nat) : Sink := ⟨[], limit⟩

/-- How many of `n` further bytes fit. -/
def accepts (s : Sink) (n : Nat) : Nat :=
  match s.limit with
  | none => n
  | some limit => min n (limit - s.written.length)

/-- Writes all bytes or as many as fit; the flag tells whether all of them did. -/
def write (s : Sink) (bytes : List UInt8) : Bool × Sink :=
  let n := s.accepts bytes.length
  (n == bytes.length, { s with written := s.written ++ bytes.take n })

def writeEscaped (s : Sink) (text : String) : Bool × Sink :=
  s.write (Utf8.bytesOfString (escape text))

/-- Writes the escaped form of each chunk in turn, with the sink as it is after each of them. -/
def writeChunks (s : Sink) : List String → List (Bool × Sink)
  | [] => []
  | chunk :: rest =>
    let step := s.writeEscaped chunk
    step :: writeChunks step.2 rest

end Sink
end Text
end JavaStubs
