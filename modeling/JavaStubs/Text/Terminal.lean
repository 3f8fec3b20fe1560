/-!
# Text without terminal controls

Messages about arguments are printed without the control sequences that a terminal would obey. White
space stays; other control characters go, and a sequence goes up to its end.
-/

namespace JavaStubs
namespace Text
namespace Terminal

/-- What a terminal is in the middle of. -/
inductive State
  | ground
  /-- Behind an escape character. -/
  | escape
  /-- Behind an escape character and further characters of its sequence. -/
  | intermediate
  /-- In a sequence with parameters. -/
  | control
  /-- In a text for the terminal, which a bell may end. -/
  | command (endsWithBell : Bool)
  deriving DecidableEq, Repr

def isSpacing (c : Char) : Bool := [' ', '\t', '\n', '\x0c', '\r'].contains c

/-- Whether a character is printed by a terminal that is in no sequence. -/
def isShown (c : Char) : Bool := isSpacing c || (0x20 < c.toNat && c.toNat ≠ 0x7F)

/-- The state behind a character that follows an escape character. -/
def afterEscape (c : Char) : State :=
  if c = '[' then .control
  else if c = ']' then .command true
  else if ['P', 'X', '^', '_'].contains c then .command false
  else if 0x20 ≤ c.toNat ∧ c.toNat < 0x30 then .intermediate
  else if c.toNat = 0x7F then .escape
  else .ground

/-- The state behind a character, and whether the character is printed. -/
def step (s : State) (c : Char) : State × Bool :=
  if c = '\x1b' then (.escape, false)
  else if c = '\x18' ∨ c = '\x1a' then (.ground, false)
  else match s with
    | .ground => (.ground, isShown c)
    | .command bell => (if bell ∧ c = '\x07' then .ground else .command bell, false)
    | .escape =>
      if c.toNat < 0x20 then (if isSpacing c then (.ground, true) else (.escape, false))
      else (afterEscape c, false)
    | .intermediate =>
      if c.toNat < 0x20 then (if isSpacing c then (.ground, true) else (s, false))
      else if c.toNat < 0x30 ∨ 0x7F ≤ c.toNat then (s, false)
      else (.ground, false)
    | .control =>
      if c.toNat < 0x20 then (if isSpacing c then (.ground, true) else (s, false))
      else if c.toNat < 0x40 ∨ 0x7F ≤ c.toNat then (s, false)
      else (.ground, false)

/-- The printed characters of a text. -/
def shown (s : State) : List Char → List Char
  | [] => []
  | c :: rest =>
    match step s c with
    | (next, true) => c :: shown next rest
    | (next, false) => shown next rest

end Terminal

def withoutControls (text : String) : String :=
  String.ofList (Terminal.shown .ground text.toList)

end Text
end JavaStubs
