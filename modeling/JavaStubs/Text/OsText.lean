import JavaStubs.Text.Unicode

/-!
# Text of the operating system

File names, arguments and environment values are arbitrary bytes. They are kept as glyphs, so that
text can be cut at ASCII characters and yet nothing of the bytes is lost. Scripts are texts of bytes
as well, but there a byte is kept as the character with its number.
-/

namespace JavaStubs

open Text

/-- Text as the operating system hands it over. -/
abbrev OsText := List Glyph

namespace OsText

def ofChars (s : List Char) : OsText := s.map .char

def ofString (s : String) : OsText := ofChars s.toList

def ofBytes (bytes : List UInt8) : OsText := Utf8.glyphs bytes

def toBytes (t : OsText) : List UInt8 := t.flatMap Utf8.bytesOfGlyph

/-- The characters, if there is no stray byte. -/
def toChars? : OsText → Option (List Char)
  | [] => some []
  | .char c :: rest => (toChars? rest).map (c :: ·)
  | .stray _ :: _ => none

def toString? (t : OsText) : Option String := (toChars? t).map String.ofList

/-- The characters, with a replacement character for each stray run. -/
def displayChars (t : OsText) : List Char :=
  t.map fun
    | .char c => c
    | .stray _ => '\uFFFD'

/-- The text as messages show it. -/
def display (t : OsText) : String := String.ofList (displayChars t)

theorem ofString_append (s t : String) : ofString (s ++ t) = ofString s ++ ofString t := by
  simp [ofString, ofChars]

theorem toChars?_ofChars (s : List Char) : toChars? (ofChars s) = some s := by
  induction s with
  | nil => rfl
  | cons c rest ih => simpa [ofChars, toChars?] using ih

theorem toString?_ofString (s : String) : toString? (ofString s) = some s := by
  simp [toString?, ofString, toChars?_ofChars]

theorem display_ofString (s : String) : display (ofString s) = s := by
  simp [display, displayChars, ofString, ofChars, Function.comp_def]

theorem ofChars_injective {s t : List Char} (h : ofChars s = ofChars t) : s = t := by
  simpa [toChars?_ofChars] using congrArg toChars? h

end OsText

namespace Text

def charsOfBytes (bytes : List UInt8) : List Char := bytes.map fun b => Char.ofNat b.toNat

def bytesOfChars (cs : List Char) : List UInt8 := cs.map fun c => c.toNat.toUInt8

end Text
end JavaStubs
