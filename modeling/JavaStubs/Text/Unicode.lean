import JavaStubs.Text.CharClass

/-!
# Encodings of text

Bytes are read as a sequence of glyphs: characters, and the stray runs of bytes that are no
character. A stray run is the longest beginning of a character that the next byte breaks off, or a
single byte that begins none. Encoding the glyphs gives the bytes back. In UTF-16 a character of the
basic plane is one unit, any other a high and a low surrogate, and surrogates that stand alone or in
the wrong order spell nothing.
-/

namespace JavaStubs
namespace Text

/-- A character, or a run of bytes that spells none. -/
inductive Glyph
  | char (c : Char)
  | stray (bytes : List UInt8)
  deriving DecidableEq, Repr

namespace Utf8

def bytesOfChar (c : Char) : List UInt8 :=
  let n := c.toNat
  if n < 0x80 then [n.toUInt8]
  else if n < 0x800 then [(0xC0 + n / 0x40).toUInt8, (0x80 + n % 0x40).toUInt8]
  else if n < 0x10000 then
    [(0xE0 + n / 0x1000).toUInt8, (0x80 + n / 0x40 % 0x40).toUInt8, (0x80 + n % 0x40).toUInt8]
  else
    [(0xF0 + n / 0x40000).toUInt8, (0x80 + n / 0x1000 % 0x40).toUInt8,
      (0x80 + n / 0x40 % 0x40).toUInt8, (0x80 + n % 0x40).toUInt8]

def bytesOfChars (s : List Char) : List UInt8 := s.flatMap bytesOfChar

def bytesOfString (s : String) : List UInt8 := bytesOfChars s.toList

def bytesOfGlyph : Glyph → List UInt8
  | .char c => bytesOfChar c
  | .stray bytes => bytes

/-- How a first byte goes on: the range of the second byte, the number of bytes after that one, and
the bits that the first byte contributes. -/
structure Lead where
  low : Nat
  high : Nat
  more : Nat
  bits : Nat

/-- What a byte above the ASCII range begins, if anything. -/
def lead? (b : Nat) : Option Lead :=
  if 0xC2 ≤ b ∧ b ≤ 0xDF then some ⟨0x80, 0xBF, 0, b - 0xC0⟩
  else if b = 0xE0 then some ⟨0xA0, 0xBF, 1, 0⟩
  else if b = 0xED then some ⟨0x80, 0x9F, 1, 0xD⟩
  else if 0xE1 ≤ b ∧ b ≤ 0xEF then some ⟨0x80, 0xBF, 1, b - 0xE0⟩
  else if b = 0xF0 then some ⟨0x90, 0xBF, 2, 0⟩
  else if 0xF1 ≤ b ∧ b ≤ 0xF3 then some ⟨0x80, 0xBF, 2, b - 0xF0⟩
  else if b = 0xF4 then some ⟨0x80, 0x8F, 2, 4⟩
  else none

/-- Reads up to `more` continuation bytes onto `bits`: the finished character, or how many bytes of
it were there and whether it was the end of the input that broke it off. -/
def continuation (bits taken : Nat) : Nat → List UInt8 → Except (Nat × Bool) Char
  | 0, _ => .ok (Char.ofNat bits)
  | _ + 1, [] => .error (taken, true)
  | more + 1, b :: rest =>
    if 0x80 ≤ b.toNat ∧ b.toNat ≤ 0xBF then
      continuation (bits * 0x40 + (b.toNat - 0x80)) (taken + 1) more rest
    else .error (taken, false)

/-- The glyph at the front of the bytes `b :: rest`, how many bytes it takes, and whether it is a
character that the end of the input cut short. -/
def front (b : UInt8) (rest : List UInt8) : Glyph × Nat × Bool :=
  if b.toNat < 0x80 then (.char (Char.ofNat b.toNat), 1, false)
  else match lead? b.toNat with
    | none => (.stray [b], 1, false)
    | some l => match rest with
      | [] => (.stray [b], 1, true)
      | c :: more =>
        if c.toNat < l.low ∨ l.high < c.toNat then (.stray [b], 1, false)
        else match continuation (l.bits * 0x40 + (c.toNat - 0x80)) 2 l.more more with
          | .ok ch => (.char ch, l.more + 2, false)
          | .error (taken, cutShort) => (.stray ((b :: rest).take taken), taken, cutShort)

def glyphs : List UInt8 → List Glyph
  | [] => []
  | b :: rest =>
    let (g, taken, _) := front b rest
    g :: glyphs (rest.drop (taken - 1))
termination_by bytes => bytes.length
decreasing_by simp only [List.length_drop, List.length_cons]; omega

/-- Why bytes are no text: the place of the first stray run, and its length unless it is the end of
the input that breaks it off. -/
structure Malformed where
  validUpTo : Nat
  strayLength : Option Nat
  deriving DecidableEq, Repr

def Malformed.message (m : Malformed) : String :=
  match m.strayLength with
  | some n =>
    "invalid utf-8 sequence of " ++ toString n ++ " bytes from index " ++ toString m.validUpTo
  | none => "incomplete utf-8 byte sequence from index " ++ toString m.validUpTo

/-- The text spelled by the bytes, or where they stop being text. -/
def decode (bytes : List UInt8) : Except Malformed (List Char) :=
  go 0 [] bytes
where
  go (index : Nat) (before : List Char) : List UInt8 → Except Malformed (List Char)
    | [] => .ok before.reverse
    | b :: rest =>
      match front b rest with
      | (.char c, taken, _) => go (index + taken) (c :: before) (rest.drop (taken - 1))
      | (.stray run, _, cutShort) =>
        .error ⟨index, if cutShort then none else some run.length⟩
  termination_by bytes => bytes.length
  decreasing_by simp only [List.length_drop, List.length_cons]; omega

/-- The text of the bytes, with one replacement character for each stray run. -/
def decodeLossy (bytes : List UInt8) : List Char :=
  (glyphs bytes).map fun
    | .char c => c
    | .stray _ => '\uFFFD'

end Utf8

namespace Utf16

def unitsOfChar (c : Char) : List Nat :=
  if c.toNat < 0x10000 then [c.toNat]
  else [0xD800 + (c.toNat - 0x10000) / 0x400, 0xDC00 + (c.toNat - 0x10000) % 0x400]

def units (s : List Char) : List Nat := s.flatMap unitsOfChar

def pairChar (high low : Nat) : Char :=
  Char.ofNat (0x10000 + (high - 0xD800) * 0x400 + (low - 0xDC00))

def isSurrogate (u : Nat) : Bool := 0xD800 ≤ u && u < 0xE000

def isLowSurrogate (u : Nat) : Bool := 0xDC00 ≤ u && u < 0xE000

/-- The text spelled by a sequence of code units. -/
def decode? : List Nat → Option (List Char)
  | [] => some []
  | u :: rest =>
    if !isSurrogate u then (decode? rest).map (Char.ofNat u :: ·)
    else if isLowSurrogate u then none
    else match rest with
      | [] => none
      | v :: rest =>
        if isLowSurrogate v then (decode? rest).map (pairChar u v :: ·) else none

end Utf16
end Text
end JavaStubs
