/-!
# Hexadecimal digits
-/

namespace JavaStubs
namespace Text

/-- The value of a hexadecimal digit in either case. -/
def hexValue? (c : Char) : Option Nat :=
  if '0' ≤ c ∧ c ≤ '9' then some (c.toNat - 48)
  else if 'A' ≤ c ∧ c ≤ 'F' then some (c.toNat - 55)
  else if 'a' ≤ c ∧ c ≤ 'f' then some (c.toNat - 87)
  else none

def upperHexDigit (n : Nat) : Char :=
  if n < 10 then Char.ofNat (48 + n) else Char.ofNat (55 + n)

def lowerHexDigit (n : Nat) : Char :=
  if n < 10 then Char.ofNat (48 + n) else Char.ofNat (87 + n)

/-- The value of a run of digits read from the left, `none` at anything that is no digit. -/
def hexNumber? : List Char → Option Nat :=
  go 0
where
  go (acc : Nat) : List Char → Option Nat
    | [] => some acc
    | c :: rest => (hexValue? c).bind fun d => go (16 * acc + d) rest

/-- The shortest lower-case spelling. -/
def lowerHex (n : Nat) : List Char :=
  if n < 16 then [lowerHexDigit n] else lowerHex (n / 16) ++ [lowerHexDigit (n % 16)]
termination_by n
decreasing_by omega

/-- Two lower-case digits for each byte. -/
def hexOfBytes (bytes : List UInt8) : List Char :=
  bytes.flatMap fun b => [lowerHexDigit (b.toNat / 16), lowerHexDigit (b.toNat % 16)]

/-- The bytes spelled by pairs of digits. -/
def bytesOfHex? : List Char → Option (List UInt8)
  | [] => some []
  | [_] => none
  | a :: b :: rest => do
    let hi ← hexValue? a
    let lo ← hexValue? b
    return UInt8.ofNat (16 * hi + lo) :: (← bytesOfHex? rest)

theorem hexValue?_upperHexDigit : ∀ n < 16, hexValue? (upperHexDigit n) = some n := by
  decide

theorem hexValue?_lt {c : Char} {n : Nat} (h : hexValue? c = some n) : n < 16 := by
  have hle {a b : Char} : a ≤ b ↔ a.toNat ≤ b.toNat := Iff.rfl
  simp only [hexValue?, hle] at h
  split at h
  · simp_all; omega
  split at h
  · simp_all; omega
  split at h
  · simp_all; omega
  · simp at h

end Text
end JavaStubs
