import JavaStubs.Text.Hex
import JavaStubs.Text.Unicode
import JavaStubs.Yaml.Spot

/-!
# Tags and directives

A tag is a handle and a suffix. The handle is `!`, `!!` or a word between exclamation marks; a tag
in angle brackets has no handle, and neither has the lone exclamation mark.
-/

namespace JavaStubs
namespace Yaml

/-- Punctuation of tags; a comma and brackets only count between angle brackets. -/
def isTagPunctuation (verbatim : Bool) (c : Char) : Bool :=
  ";/?:@&=+$.%!~*'()".toList.contains c || (verbatim && ",[]".toList.contains c)

/-- How many bytes a character takes that starts with the given byte. -/
def encodedLength (b : Nat) : Nat :=
  if b < 0x80 then 1 else if b / 0x20 = 6 then 2 else if b / 0x10 = 14 then 3 else 4

/-- The bytes of `n` percent escapes. -/
def readPercentBytes : Nat → Input → Option (List UInt8 × Input)
  | 0, s => some ([], s)
  | n + 1, s =>
    match s with
    | p :: a :: b :: rest =>
      if p.char = '%' then do
        let hi ← Text.hexValue? a.char
        let lo ← Text.hexValue? b.char
        let (bytes, rest) ← readPercentBytes n rest
        return (UInt8.ofNat (16 * hi + lo) :: bytes, rest)
      else none
    | _ => none

/-- The character that a run of percent escapes spells. -/
def readPercent (s : Input) : Option (List Char × Input) := do
  let (first, _) ← readPercentBytes 1 s
  let (bytes, rest) ← readPercentBytes (encodedLength (first.headD 0).toNat) s
  match Text.Utf8.decode bytes with
  | .ok text => return (text, rest)
  | .error _ => none

/-- The characters of a tag, with percent escapes resolved. -/
def readTagChars (verbatim : Bool) : Nat → List Char → Input → Option (List Char × Input)
  | 0, _, _ => none
  | fuel + 1, acc, s =>
    match s with
    | [] => some (acc.reverse, [])
    | c :: rest =>
      if c.char = '%' then
        match readPercent s with
        | some (text, rest) => readTagChars verbatim fuel (text.reverse ++ acc) rest
        | none => none
      else if isWordChar c.char || isTagPunctuation verbatim c.char then
        readTagChars verbatim fuel (c.char :: acc) rest
      else some (acc.reverse, s)

/-- A handle: an exclamation mark, word characters, and an exclamation mark if one follows. -/
def readHandle (s : Input) : Option (List Char × Input) :=
  match s with
  | c :: rest =>
    if c.char = '!' then
      let (word, rest) := spanChars isWordChar rest
      if startsWithChar '!' rest then some ('!' :: word ++ ['!'], rest.drop 1)
      else some ('!' :: word, rest)
    else none
  | [] => none

/-- A handle that is closed by a second exclamation mark. -/
def isClosedHandle (handle : List Char) : Bool := 1 < handle.length && handle.getLast? = some '!'

/-- The handle and the suffix of a tag in angle brackets, from after the opening bracket. -/
def readVerbatimTag (s : Input) : Option (String × String × Input) := do
  let (suffix, rest) ← readTagChars true (s.length + 1) [] s
  if suffix.isEmpty || !startsWithChar '>' rest then none
  else return ("", String.ofList suffix, rest.drop 1)

/-- The handle and the suffix of a tag, from its exclamation mark on. A comma may follow a tag in a
flow collection, and otherwise a gap has to. -/
def readTag (flow : Bool) (s : Input) : Option (String × String × Input) := do
  let (handle, suffix, rest) ←
    if startsWithChar '<' (s.drop 1) then readVerbatimTag (s.drop 2)
    else do
      let (handle, rest) ← readHandle s
      let (suffix, rest) ← readTagChars false (rest.length + 1) [] rest
      if isClosedHandle handle then
        if suffix.isEmpty then none
        else pure (String.ofList handle, String.ofList suffix, rest)
      else
        let suffix := handle.drop 1 ++ suffix
        if suffix.isEmpty then pure ("", "!", rest) else pure ("!", String.ofList suffix, rest)
  if (flow && startsWithChar ',' rest) || atGap rest then return (handle, suffix, rest) else none

/-- What follows a directive on its line: blanks and a comment. -/
def finishDirective (s : Input) : Option Input :=
  let rest := dropChars isBlank s
  let rest := if startsWithChar '#' rest then dropChars (fun c => !isBreak c) rest else rest
  if atLineEnd rest then some (rest.drop 1) else none

/-- A number of at most nine digits. -/
def readVersionNumber (s : Input) : Option (Nat × Input) :=
  let (digits, rest) := spanChars Char.isDigit s
  if digits.isEmpty ∨ 9 < digits.length then none
  else some (digits.foldl (fun n c => n * 10 + (c.toNat - 48)) 0, rest)

def readVersion (s : Input) : Option (Nat × Nat × Input) := do
  let (major, rest) ← readVersionNumber (dropChars isBlank s)
  if !startsWithChar '.' rest then none
  else
    let (minor, rest) ← readVersionNumber (rest.drop 1)
    return (major, minor, ← finishDirective rest)

/-- The value of a tag directive: a handle and what it stands for. -/
def readTagMeaning (s : Input) : Option (String × String × Input) := do
  let (handle, rest) ← readHandle (dropChars isBlank s)
  if handle ≠ ['!'] ∧ !isClosedHandle handle then none
  else if !startsWith isBlank rest then none
  else
    let rest := dropChars isBlank rest
    let (meaning, rest) ← readTagChars true (rest.length + 1) [] rest
    if meaning.isEmpty || !atGap rest then none
    else return (String.ofList handle, String.ofList meaning, ← finishDirective rest)

end Yaml
end JavaStubs
