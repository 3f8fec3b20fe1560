import JavaStubs.Json.Basic
import JavaStubs.Text.Hex
import JavaStubs.Text.Unicode

/-!
# Reading JSON text

A text is read into the tree of its values. Where it stops being JSON the tree ends in `broken`, and
nothing after that place is looked at.
-/

namespace JavaStubs
namespace Json

open Text

def isSpace (c : Char) : Bool := c = ' ' || c = '\n' || c = '\t' || c = '\r'

def skipSpaces (s : List Char) : List Char := s.dropWhile isSpace

/-- The character of a one-letter escape. -/
def shortEscape? : Char → Option Char
  | '"' => some '"'
  | '\\' => some '\\'
  | '/' => some '/'
  | 'b' => some '\x08'
  | 'f' => some '\x0c'
  | 'n' => some '\n'
  | 'r' => some '\r'
  | 't' => some '\t'
  | _ => none

/-- The code units of a string up to its closing quote, last unit first, and what follows the quote;
`none` if a control character, a wrong escape or the end comes before the quote. -/
def stringUnits (acc : List Nat) : List Char → Option (List Nat × List Char)
  | [] => none
  | '"' :: rest => some (acc, rest)
  | '\\' :: 'u' :: a :: b :: c :: d :: rest =>
    match hexNumber? [a, b, c, d] with
    | some u => stringUnits (u :: acc) rest
    | none => none
  | '\\' :: c :: rest =>
    match shortEscape? c with
    | some e => stringUnits (e.toNat :: acc) rest
    | none => none
  | c :: rest =>
    if c = '\\' ∨ c.toNat < 0x20 then none
    else stringUnits ((Utf16.unitsOfChar c).reverse ++ acc) rest

/-- The text after an opening quote, `none` inside if its units spell no text. -/
def readString (s : List Char) : Option (Option String × List Char) :=
  (stringUnits [] s).map fun (units, rest) =>
    ((Utf16.decode? units.reverse).map String.ofList, rest)

def readWord (word : String) (value : Json) (s : List Char) : Json × Option (List Char) :=
  if word.toList.isPrefixOf s then (value, some (s.drop word.length)) else (.broken, none)

/-- What is read: a value, and the rest of the text unless the text stopped being JSON inside the
value. -/
abbrev Read := Json × Option (List Char)

/-- A value that is neither an array nor an object. -/
def readScalar (s : List Char) : Read :=
  match s with
  | 'n' :: _ => readWord "null" .null s
  | 't' :: _ => readWord "true" (.bool true) s
  | 'f' :: _ => readWord "false" (.bool false) s
  | '"' :: rest =>
    match readString rest with
    | some (some text, rest) => (.string text, some rest)
    | some (none, rest) => (.valueless, some rest)
    | none => (.broken, none)
  | _ =>
    match readNumber s with
    | .ok n rest => (.number n, some rest)
    | .outOfRange rest => (.valueless, some rest)
    | .malformed => (.broken, none)

mutual

/-- The value at the front of a text. Every call goes at least one character further into the text,
so that `fuel` above its length is never used up. -/
def readValue (fuel : Nat) (s : List Char) : Read :=
  match fuel with
  | 0 => (.broken, none)
  | fuel + 1 =>
    match skipSpaces s with
    | '[' :: rest =>
      match skipSpaces rest with
      | ']' :: rest => (.array [], some rest)
      | rest =>
        let (items, rest) := readItems fuel rest
        (.array items, rest)
    | '\x7b' :: rest =>
      match skipSpaces rest with
      | '\x7d' :: rest => (.object [], some rest)
      | rest =>
        let (entries, rest) := readEntries fuel rest
        (.object entries, rest)
    | s => readScalar s

def readItems (fuel : Nat) (s : List Char) : List Json × Option (List Char) :=
  match fuel with
  | 0 => ([.broken], none)
  | fuel + 1 =>
    match readValue fuel s with
    | (item, none) => ([item], none)
    | (item, some rest) =>
      match skipSpaces rest with
      | ']' :: rest => ([item], some rest)
      | ',' :: rest =>
        let (items, rest) := readItems fuel rest
        (item :: items, rest)
      | _ => ([item, .broken], none)

def readEntries (fuel : Nat) (s : List Char) : List (Option String × Json) × Option (List Char) :=
  match fuel with
  | 0 => ([(none, .broken)], none)
  | fuel + 1 =>
    match skipSpaces s with
    | '"' :: rest =>
      match readString rest with
      | none => ([(none, .broken)], none)
      | some (key, rest) =>
        match skipSpaces rest with
        | ':' :: rest =>
          match readValue fuel rest with
          | (value, none) => ([(key, value)], none)
          | (value, some rest) =>
            match skipSpaces rest with
            | '\x7d' :: rest => ([(key, value)], some rest)
            | ',' :: rest =>
              let (entries, rest) := readEntries fuel rest
              ((key, value) :: entries, rest)
            | _ => ([(key, value), (none, .broken)], none)
        | _ => ([(key, .broken)], none)
    | _ => ([(none, .broken)], none)

end

/-- A whole text: its value, and whether nothing but blanks follows the value. -/
def ofText (s : String) : Json × Bool :=
  match readValue (2 * s.length + 2) s.toList with
  | (value, some rest) => (value, (skipSpaces rest).isEmpty)
  | (value, none) => (value, true)

end Json
end JavaStubs
