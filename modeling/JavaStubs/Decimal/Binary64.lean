/-!
# Binary64 numbers

A finite number that is not negative is `significand * 2 ^ exponent`. Quotients of natural numbers
are rounded to the nearest such number, and a quotient half way between two goes to the one with the
even significand. Of all decimals that round to a given number, its text shows one with the fewest
digits, and of those the one nearest to the number.
-/

namespace JavaStubs

/-- The number `significand * 2 ^ exponent`, with at most 53 bits in the significand and an exponent
of at least `-1074`. -/
structure Binary64 where
  significand : Nat
  exponent : Int
  deriving DecidableEq, Repr

namespace Binary64

def zero : Binary64 := ⟨0, -1074⟩

def isZero (x : Binary64) : Bool := x.significand = 0

/-- The number as a quotient of natural numbers. -/
def ratio (x : Binary64) : Nat × Nat :=
  (x.significand * Nat.pow 2 x.exponent.toNat, Nat.pow 2 (-x.exponent).toNat)

/-- The whole number nearest to `num / den`. -/
def divNearest (num den : Nat) : Nat :=
  let q := num / den
  let r := 2 * (num % den)
  if r < den ∨ (r = den ∧ q % 2 = 0) then q else q + 1

/-- The quotient `num / den` divided by `2 ^ e`, as a quotient. -/
def shiftRatio (num den : Nat) (e : Int) : Nat × Nat :=
  (num * Nat.pow 2 (-e).toNat, den * Nat.pow 2 e.toNat)

/-- The exponent with which `num / den` takes 53 bits, or the least exponent. -/
def exponentOf (num den : Nat) : Int :=
  let e : Int := Int.ofNat num.log2 - Int.ofNat den.log2 - 53
  let (n, d) := shiftRatio num den e
  max (-1074) (if n / d < Nat.pow 2 53 then e else e + 1)

/-- The number nearest to `num / den`, unless it is out of range. -/
def ofRatio? (num den : Nat) : Option Binary64 :=
  if num = 0 then some zero
  else
    let e := exponentOf num den
    let (n, d) := shiftRatio num den e
    let m := divNearest n d
    let x : Binary64 := if m < Nat.pow 2 53 then ⟨m, e⟩ else ⟨m / 2, e + 1⟩
    if x.exponent ≤ 971 then some x else none

def mul? (x y : Binary64) : Option Binary64 :=
  ofRatio? (x.ratio.1 * y.ratio.1) (x.ratio.2 * y.ratio.2)

def div? (x y : Binary64) : Option Binary64 :=
  ofRatio? (x.ratio.1 * y.ratio.2) (x.ratio.2 * y.ratio.1)

def ofNat? (n : Nat) : Option Binary64 := ofRatio? n 1

/-- The product of a whole number and a power of ten, where both factors are rounded before they are
combined. Powers of ten reach up to 308, and a smaller quotient takes two divisions. -/
def scaled? (n : Nat) (power : Int) : Option Binary64 := do
  let x ← ofNat? n
  if x.isZero then return x
  else if 308 < power then none
  else if 0 ≤ power then x.mul? (← ofNat? (Nat.pow 10 power.toNat))
  else if -308 ≤ power then x.div? (← ofNat? (Nat.pow 10 (-power).toNat))
  else if -616 ≤ power then
    let y ← x.div? (← ofNat? (Nat.pow 10 308))
    y.div? (← ofNat? (Nat.pow 10 (-power - 308).toNat))
  else return zero

/-- The decimal `digits * 10 ^ power`. -/
structure Decimal where
  digits : Nat
  power : Int
  deriving DecidableEq, Repr

/-- The quotients between which every number rounds to `x`, in quarters of its last place: below,
itself, above. The gap below a power of two is half as wide. -/
def roundingInterval (x : Binary64) : Nat × Nat × Nat :=
  let m := x.significand
  (if m = Nat.pow 2 52 ∧ -1074 < x.exponent then 4 * m - 1 else 4 * m - 2, 4 * m, 4 * m + 2)

/-- The power of ten of the leading digit of a number that is not zero. -/
def leadingPower (x : Binary64) : Int :=
  let (num, den) := x.ratio
  Int.ofNat (Nat.toDigits 10 (num * Nat.pow 10 350 / den)).length - 351

/-- `n * 10 ^ power` in quarters of the last place of `x`, as a quotient. -/
def inQuarters (x : Binary64) (n : Nat) (power : Int) : Nat × Nat :=
  let e := x.exponent - 2
  (n * Nat.pow 10 power.toNat * Nat.pow 2 (-e).toNat,
    Nat.pow 10 (-power).toNat * Nat.pow 2 e.toNat)

def roundsTo (x : Binary64) (n : Nat) (power : Int) : Bool :=
  let (low, _, high) := x.roundingInterval
  let (num, den) := x.inQuarters n power
  if x.significand % 2 = 0 then low * den ≤ num && num ≤ high * den
  else low * den < num && num < high * den

/-- How far `n * 10 ^ power` is from `x`; comparable for one power. -/
def distance (x : Binary64) (n : Nat) (power : Int) : Nat :=
  let (num, den) := x.inQuarters n power
  let mid := x.roundingInterval.2.1 * den
  (num - mid) + (mid - num)

/-- The decimal with `count` digits that rounds to `x` and is nearest to it, if there is one. -/
def nearestWith? (x : Binary64) (count : Nat) : Option Decimal :=
  let power := x.leadingPower - Int.ofNat count + 1
  let (num, den) := x.ratio
  let below := num * Nat.pow 10 (-power).toNat / (den * Nat.pow 10 power.toNat)
  match x.roundsTo below power, x.roundsTo (below + 1) power with
  | true, true =>
    if x.distance (below + 1) power < x.distance below power then some ⟨below + 1, power⟩
    else some ⟨below, power⟩
  | true, false => some ⟨below, power⟩
  | false, true => some ⟨below + 1, power⟩
  | false, false => none

def shortest (x : Binary64) : Decimal :=
  ((List.range' 1 17).findSome? x.nearestWith?).getD ⟨0, 0⟩

/-- The digits of a decimal without the zeros at their end. -/
def Decimal.significant (d : Decimal) : List Char :=
  ((Nat.toDigits 10 d.digits).reverse.dropWhile (· = '0')).reverse

/-- The power of ten of the first digit. -/
def Decimal.firstPower (d : Decimal) : Int :=
  d.power + Int.ofNat (Nat.toDigits 10 d.digits).length - 1

def zeros (n : Nat) : List Char := List.replicate n '0'

/-- The digits with a point after the first one, and a signed exponent of at least two digits. -/
def scientific (digits : List Char) (power : Int) : List Char :=
  let mantissa := match digits with
    | d :: e :: rest => d :: '.' :: e :: rest
    | short => short
  let exponent := Nat.toDigits 10 power.natAbs
  mantissa ++ 'e' :: (if power < 0 then '-' else '+') :: (zeros (2 - exponent.length) ++ exponent)

/-- The digits with a point where it belongs and at least one digit on either side of it. -/
def positional (digits : List Char) (power : Int) : List Char :=
  if power < 0 then '0' :: '.' :: (zeros (-power - 1).toNat ++ digits)
  else
    let whole := power.toNat + 1
    let fraction := digits.drop whole
    digits.take whole ++ zeros (whole - digits.length) ++
      '.' :: (if fraction.isEmpty then ['0'] else fraction)

/-- The text of a number: positional from `1e-5` up to `1e16`, scientific outside. -/
def text (x : Binary64) : String :=
  if x.isZero then "0.0"
  else
    let d := x.shortest
    let power := d.firstPower
    String.ofList <|
      if -5 ≤ power ∧ power < 16 then positional d.significant power
      else scientific d.significant power

end Binary64
end JavaStubs
