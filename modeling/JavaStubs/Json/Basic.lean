import JavaStubs.Decimal.Binary64

/-!
# JSON values

A value as it stands in a text. Two constructors stand for what is no value: a spelling that is well
formed but denotes nothing, such as a lone surrogate in a string or a number beyond every range, and
the place where a text stops being JSON. Keeping both in the tree lets a reader of the tree report
the first problem in the order of the text. An integer that fits 64 bits is kept as it is. Any other
number becomes a binary64 number: the digits are taken into a significand of 64 bits as long as they
fit, the others only move the decimal point.
-/

namespace JavaStubs

/-- A number: an integer of at most 64 bits, or a binary64 number with its sign. -/
inductive Numeral
  | integer (n : Int)
  | decimal (negative : Bool) (magnitude : Binary64)
  deriving DecidableEq, Repr

inductive Json
  | null
  | bool (b : Bool)
  | number (n : Numeral)
  | string (s : String)
  | array (items : List Json)
  /-- The entries in the order of the text; the key is `none` where its spelling denotes nothing. -/
  | object (entries : List (Option String × Json))
  /-- Well formed, but without a value. -/
  | valueless
  /-- Where the text stops being JSON. -/
  | broken
  deriving Repr

namespace Json

mutual

def isWellFormed : Json → Bool
  | .broken => false
  | .array items => areWellFormed items
  | .object entries => areEntriesWellFormed entries
  | _ => true

def areWellFormed : List Json → Bool
  | [] => true
  | item :: rest => item.isWellFormed && areWellFormed rest

def areEntriesWellFormed : List (Option String × Json) → Bool
  | [] => true
  | (_, value) :: rest => value.isWellFormed && areEntriesWellFormed rest

end

def strings (l : List String) : Json := .array (l.map .string)

def record (entries : List (String × Json)) : Json :=
  .object (entries.map fun (key, value) => (some key, value))

/-- A number read from the front of a text, with the rest of the text. -/
inductive NumberRead
  /-- The text at the front is no number. -/
  | malformed
  /-- The number is beyond every range. -/
  | outOfRange (rest : List Char)
  | ok (n : Numeral) (rest : List Char)

def maxSignificand : Nat := Nat.pow 2 64 - 1

def maxExponent : Nat := Nat.pow 2 31 - 1

def digitValue (c : Char) : Nat := c.toNat - 48

/-- Takes the digits at the front of a text into a significand as long as it stays within `limit`:
the significand, how many digits it took, and the rest. -/
def takeDigits (limit : Nat) (acc taken : Nat) : List Char → Nat × Nat × List Char
  | [] => (acc, taken, [])
  | c :: rest =>
    if c.isDigit ∧ acc * 10 + digitValue c ≤ limit then
      takeDigits limit (acc * 10 + digitValue c) (taken + 1) rest
    else (acc, taken, c :: rest)

/-- The number `significand * 10 ^ power`. -/
def finish (negative : Bool) (significand : Nat) (power : Int) (rest : List Char) : NumberRead :=
  match Binary64.scaled? significand power with
  | some x => .ok (.decimal negative x) rest
  | none => .outOfRange rest

/-- The exponent after the letter `e`, on top of the power that the digits before it left. -/
def readExponent (negative : Bool) (significand : Nat) (power : Int) (s : List Char) : NumberRead :=
  let (down, digits) := match s with
    | '+' :: rest => (false, rest)
    | '-' :: rest => (true, rest)
    | rest => (false, rest)
  let (value, taken, rest) := takeDigits maxExponent 0 0 digits
  if taken = 0 then .malformed
  else match rest with
    | c :: _ =>
      if c.isDigit then
        let rest := rest.dropWhile Char.isDigit
        if significand = 0 ∨ down then .ok (.decimal negative .zero) rest else .outOfRange rest
      else finish negative significand (if down then power - value else power + value) rest
    | [] => finish negative significand (if down then power - value else power + value) rest

/-- What may follow the digits of a number: an exponent or nothing. -/
def readTail (negative : Bool) (significand : Nat) (power : Int) (s : List Char) : NumberRead :=
  match s with
  | c :: rest =>
    if c = 'e' ∨ c = 'E' then readExponent negative significand power rest
    else finish negative significand power s
  | [] => finish negative significand power s

/-- The digits after the point. Those that the significand has no room for are dropped. -/
def readFraction (negative : Bool) (significand : Nat) (power : Int) (s : List Char) : NumberRead :=
  match s with
  | c :: _ =>
    if c.isDigit then
      let (m, taken, rest) := takeDigits maxSignificand significand 0 s
      readTail negative m (power - taken) (rest.dropWhile Char.isDigit)
    else .malformed
  | [] => .malformed

def readAfterInteger (negative : Bool) (significand : Nat) (s : List Char) : NumberRead :=
  match s with
  | c :: rest =>
    if c = '.' then readFraction negative significand 0 rest
    else if c = 'e' ∨ c = 'E' then readExponent negative significand 0 rest
    else if c.isDigit then
      let more := s.takeWhile Char.isDigit
      let after := s.dropWhile Char.isDigit
      match after with
      | '.' :: fraction => readFraction negative significand more.length fraction
      | _ => readTail negative significand more.length after
    else integer s
  | [] => integer s
where
  /-- An integer without point or exponent. A negative one beyond 64 bits, and minus zero, are
  binary64 numbers. -/
  integer (rest : List Char) : NumberRead :=
    if !negative then .ok (.integer significand) rest
    else if significand = 0 ∨ Nat.pow 2 63 < significand then finish true significand 0 rest
    else .ok (.integer (-Int.ofNat significand)) rest

/-- The digits of a number, without a needless zero in front. -/
def readUnsigned (negative : Bool) (s : List Char) : NumberRead :=
  match s with
  | '0' :: c :: rest =>
    if c.isDigit then .malformed else readAfterInteger negative 0 (c :: rest)
  | c :: _ =>
    if c.isDigit then
      let (m, _, rest) := takeDigits maxSignificand 0 0 s
      readAfterInteger negative m rest
    else .malformed
  | [] => .malformed

def readNumber : List Char → NumberRead
  | '-' :: rest => readUnsigned true rest
  | s => readUnsigned false s

end Json
end JavaStubs
