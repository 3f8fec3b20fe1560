import JavaStubs.Proofs.Text.CodeUnits
import JavaStubs.Text.Sink
import Mathlib.Data.List.Forall2

/-!
# Groups of escaped text

Escaped text is a sequence of groups: a backslash, the letter `u` and four hexadecimal digits. What
the reader of escaped text takes for a group is told exactly. Digits may be in either case, and in
place of the first digit there may be a plus sign, which counts as a zero.
-/

namespace JavaStubs
namespace Text

section Digits

def IsUpperHexDigit (c : Char) : Prop := ('0' ≤ c ∧ c ≤ '9') ∨ ('A' ≤ c ∧ c ≤ 'F')

def IsHexDigit (c : Char) : Prop := IsUpperHexDigit c ∨ ('a' ≤ c ∧ c ≤ 'f')

instance (c : Char) : Decidable (IsUpperHexDigit c) := inferInstanceAs (Decidable (_ ∨ _))

instance (c : Char) : Decidable (IsHexDigit c) := inferInstanceAs (Decidable (_ ∨ _))

variable {c : Char} {n : Nat}

theorem exists_hexValue?_iff : (∃ n, hexValue? c = some n) ↔ IsHexDigit c := by
  unfold hexValue? IsHexDigit IsUpperHexDigit
  split_ifs <;> simp_all

theorem IsHexDigit.ascii (digit : IsHexDigit c) : c.toNat < 0x80 := by
  have hle {a b : Char} : a ≤ b ↔ a.toNat ≤ b.toNat := Iff.rfl
  simp only [IsHexDigit, IsUpperHexDigit, hle] at digit
  simp at digit
  omega

/-- What holds of all ASCII digits holds of all digits. -/
theorem IsHexDigit.of_ascii {P : Char → Prop} (digit : IsHexDigit c)
    (ascii : ∀ code < 0x80, IsHexDigit (Char.ofNat code) → P (Char.ofNat code)) : P c := by
  have here := ascii c.toNat digit.ascii
  rw [Char.ofNat_toNat] at here
  exact here digit

/-- The digit that is written for the value of a digit is that digit in upper case. -/
theorem IsHexDigit.map_upperHexDigit (digit : IsHexDigit c) :
    (hexValue? c).map upperHexDigit = some c.toUpper :=
  digit.of_ascii (P := fun c => (hexValue? c).map upperHexDigit = some c.toUpper) (by decide)

theorem upperHexDigit_of_hexValue? (read : hexValue? c = some n) :
    upperHexDigit n = c.toUpper := by
  have digit : IsHexDigit c := exists_hexValue?_iff.mp ⟨n, read⟩
  simpa [read] using digit.map_upperHexDigit

theorem isUpperHexDigit_upperHexDigit : ∀ n < 16, IsUpperHexDigit (upperHexDigit n) := by
  decide

end Digits

section Quads

variable {quad : List Char} {u : Nat}

structure IsHexQuad (quad : List Char) : Prop where
  four : quad.length = 4
  digits : ∀ c ∈ quad, IsHexDigit c

/-- The digits with a zero for a plus sign in front. -/
def unsigned : List Char → List Char
  | '+' :: digits => '0' :: digits
  | quad => quad

/-- What stands in a group, as it is written for the value that is read. -/
def spelled (quad : List Char) : List Char := (unsigned quad).map Char.toUpper

theorem length_unsigned (quad : List Char) : (unsigned quad).length = quad.length := by
  unfold unsigned
  split <;> rfl

theorem IsHexQuad.unsigned_eq (digits : IsHexQuad quad) : unsigned quad = quad := by
  unfold unsigned
  split
  case h_1 =>
    have sign : IsHexDigit '+' := digits.digits '+' List.mem_cons_self
    exact absurd sign (by decide)
  case h_2 => rfl

theorem quadValue?_eq (a b c d : Char) :
    quadValue? a b c d = hexNumber? (unsigned [a, b, c, d]) := by
  by_cases sign : a = '+'
  · subst sign
    rfl
  · simp [quadValue?, sign, unsigned]

theorem hexNumber?_eq_some_iff {a b c d : Char} :
    hexNumber? [a, b, c, d] = some u ↔ ∃ i j k l, hexValue? a = some i ∧ hexValue? b = some j ∧
      hexValue? c = some k ∧ hexValue? d = some l ∧
      u = 0x1000 * i + 0x100 * j + 0x10 * k + l := by
  simp only [hexNumber?, hexNumber?.go, Option.bind_eq_some_iff, Option.some.injEq]
  constructor
  · rintro ⟨i, hi, j, hj, k, hk, l, hl, rfl⟩
    exact ⟨i, j, k, l, hi, hj, hk, hl, by omega⟩
  · rintro ⟨i, j, k, l, hi, hj, hk, hl, rfl⟩
    exact ⟨i, hi, j, hj, k, hk, l, hl, by omega⟩

theorem hexQuad_of_values {i j k l : Nat} (hj : j < 16) (hk : k < 16) (hl : l < 16) :
    hexQuad (0x1000 * i + 0x100 * j + 0x10 * k + l) =
      [upperHexDigit i, upperHexDigit j, upperHexDigit k, upperHexDigit l] := by
  unfold hexQuad
  congr <;> omega

theorem hexNumber?_hexQuad (unit : u < 0x10000) : hexNumber? (hexQuad u) = some u :=
  hexNumber?_eq_some_iff.mpr ⟨u / 0x1000, u / 0x100 % 0x10, u / 0x10 % 0x10, u % 0x10,
    hexValue?_upperHexDigit _ (by omega), hexValue?_upperHexDigit _ (by omega),
    hexValue?_upperHexDigit _ (by omega), hexValue?_upperHexDigit _ (by omega), by omega⟩

theorem exists_of_length_eq_four (four : quad.length = 4) : ∃ a b c d, quad = [a, b, c, d] := by
  match quad, four with
  | [a, b, c, d], _ => exact ⟨a, b, c, d, rfl⟩

theorem isHexQuad_of_hexNumber? (four : quad.length = 4) (read : hexNumber? quad = some u) :
    IsHexQuad quad ∧ u < 0x10000 ∧ hexQuad u = quad.map Char.toUpper := by
  obtain ⟨a, b, c, d, rfl⟩ := exists_of_length_eq_four four
  obtain ⟨i, j, k, l, hi, hj, hk, hl, rfl⟩ := hexNumber?_eq_some_iff.mp read
  have bi := hexValue?_lt hi
  have bj := hexValue?_lt hj
  have bk := hexValue?_lt hk
  have bl := hexValue?_lt hl
  refine ⟨⟨four, ?_⟩, by omega, ?_⟩
  · simpa using ⟨exists_hexValue?_iff.mp ⟨i, hi⟩, exists_hexValue?_iff.mp ⟨j, hj⟩,
      exists_hexValue?_iff.mp ⟨k, hk⟩, exists_hexValue?_iff.mp ⟨l, hl⟩⟩
  · rw [hexQuad_of_values bj bk bl, upperHexDigit_of_hexValue? hi, upperHexDigit_of_hexValue? hj,
      upperHexDigit_of_hexValue? hk, upperHexDigit_of_hexValue? hl]
    rfl

theorem IsHexQuad.exists_value (digits : IsHexQuad quad) : ∃ u, hexNumber? quad = some u := by
  obtain ⟨a, b, c, d, rfl⟩ := exists_of_length_eq_four digits.four
  obtain ⟨i, hi⟩ := exists_hexValue?_iff.mpr (digits.digits a (by simp))
  obtain ⟨j, hj⟩ := exists_hexValue?_iff.mpr (digits.digits b (by simp))
  obtain ⟨k, hk⟩ := exists_hexValue?_iff.mpr (digits.digits c (by simp))
  obtain ⟨l, hl⟩ := exists_hexValue?_iff.mpr (digits.digits d (by simp))
  exact ⟨_, hexNumber?_eq_some_iff.mpr ⟨i, j, k, l, hi, hj, hk, hl, rfl⟩⟩

/-- Four characters are read as a number exactly if they are digits, and then as the one whose digits
are theirs in upper case. -/
theorem hexNumber?_quad_iff (four : quad.length = 4) :
    hexNumber? quad = some u ↔ IsHexQuad quad ∧ u < 0x10000 ∧ hexQuad u = quad.map Char.toUpper := by
  refine ⟨isHexQuad_of_hexNumber? four, ?_⟩
  rintro ⟨digits, unit, written⟩
  obtain ⟨v, read⟩ := digits.exists_value
  obtain ⟨_, unit', written'⟩ := isHexQuad_of_hexNumber? four read
  have same : some v = some u := by
    rw [← hexNumber?_hexQuad unit, ← hexNumber?_hexQuad unit', written, written']
  rw [read, same]

end Quads

section Groups

/-- The groups with the given sequences behind their `u`. -/
def grouped (quads : List (List Char)) : List Char := quads.flatMap fun quad => '\\' :: 'u' :: quad

theorem mem_grouped_iff {c : Char} {quads : List (List Char)} :
    c ∈ grouped quads ↔ ∃ quad ∈ quads, c = '\\' ∨ c = 'u' ∨ c ∈ quad := by
  simp [grouped]

theorem escapeChars_eq_grouped (s : List Char) :
    escapeChars s = grouped ((Utf16.units s).map hexQuad) := by
  rw [grouped, List.flatMap_map]
  rfl

theorem grouped_injective {quads quads' : List (List Char)} (four : ∀ quad ∈ quads, quad.length = 4)
    (four' : ∀ quad ∈ quads', quad.length = 4) (same : grouped quads = grouped quads') :
    quads = quads' := by
  induction quads generalizing quads' with
  | nil =>
    cases quads' with
    | nil => rfl
    | cons => cases same
  | cons quad rest ih =>
    cases quads' with
    | nil => cases same
    | cons quad' rest' =>
      rw [List.forall_mem_cons] at four four'
      simp only [grouped, List.flatMap_cons, List.cons_append, List.cons.injEq, true_and] at same
      obtain ⟨front, back⟩ := List.append_inj same (four.1.trans four'.1.symm)
      rw [front, ih four.2 four'.2 back]

/-- The sequence stands in a group that is read as the unit `u`. -/
structure ReadsAs (quad : List Char) (u : Nat) : Prop where
  digits : IsHexQuad (unsigned quad)
  unit : u < 0x10000
  written : hexQuad u = spelled quad

theorem quadValue?_eq_some_iff {a b c d : Char} {u : Nat} :
    quadValue? a b c d = some u ↔ ReadsAs [a, b, c, d] u := by
  have four : (unsigned [a, b, c, d]).length = 4 := length_unsigned _
  rw [quadValue?_eq, hexNumber?_quad_iff four]
  exact ⟨fun ⟨digits, unit, written⟩ => ⟨digits, unit, written⟩,
    fun ⟨digits, unit, written⟩ => ⟨digits, unit, written⟩⟩

theorem unitsOfEscaped?_group (a b c d : Char) (rest : List Char) :
    unitsOfEscaped? ('\\' :: 'u' :: a :: b :: c :: d :: rest) =
      (quadValue? a b c d).bind fun u => (unitsOfEscaped? rest).bind fun us => some (u :: us) := by
  rw [unitsOfEscaped?]
  rfl

/-- A text has code units exactly if it is made of groups that are read as these units. -/
theorem unitsOfEscaped?_eq_some_iff {e : List Char} {us : List Nat} :
    unitsOfEscaped? e = some us ↔ ∃ quads, e = grouped quads ∧ List.Forall₂ ReadsAs quads us := by
  constructor
  · intro read
    fun_induction unitsOfEscaped? e generalizing us with
    | case1 =>
      obtain rfl := Option.some.inj read
      exact ⟨[], rfl, .nil⟩
    | case2 a b c d rest ih =>
      obtain ⟨u, value, read⟩ := Option.bind_eq_some_iff.mp read
      obtain ⟨later, hlater, read⟩ := Option.bind_eq_some_iff.mp read
      obtain rfl := Option.some.inj read
      obtain ⟨quads, rfl, reads⟩ := ih hlater
      exact ⟨[a, b, c, d] :: quads, rfl, .cons (quadValue?_eq_some_iff.mp value) reads⟩
    | case3 => cases read
  · rintro ⟨quads, rfl, reads⟩
    induction reads with
    | nil => rfl
    | @cons quad u quads us first _ ih =>
      obtain ⟨a, b, c, d, rfl⟩ := exists_of_length_eq_four
        ((length_unsigned quad).symm.trans first.digits.four)
      have value := quadValue?_eq_some_iff.mpr first
      have front : grouped ([a, b, c, d] :: quads) =
          '\\' :: 'u' :: a :: b :: c :: d :: grouped quads := rfl
      rw [front, unitsOfEscaped?_group, value, ih]
      rfl

theorem forall₂_readsAs_iff {quads : List (List Char)} {us : List Nat} :
    List.Forall₂ ReadsAs quads us ↔ (∀ quad ∈ quads, IsHexQuad (unsigned quad)) ∧
      (∀ u ∈ us, u < 0x10000) ∧ us.map hexQuad = quads.map spelled := by
  constructor
  · intro reads
    induction reads with
    | nil => simp
    | cons first _ ih => simpa [first.digits, first.unit, first.written] using ih
  · rintro ⟨digits, unit, written⟩
    induction quads generalizing us with
    | nil =>
      obtain rfl : us = [] := by simpa using written
      exact .nil
    | cons quad rest ih =>
      cases us with
      | nil => cases written
      | cons u later =>
        rw [List.forall_mem_cons] at digits unit
        obtain ⟨front, back⟩ := List.cons.inj written
        exact .cons ⟨digits.1, unit.1, front⟩ (ih digits.2 unit.2 back)

end Groups

section Texts

variable {s e : List Char}

theorem unescapeChars?_eq_some_iff :
    unescapeChars? e = some s ↔
      ∃ quads, e = grouped quads ∧ List.Forall₂ ReadsAs quads (Utf16.units s) := by
  rw [← unitsOfEscaped?_eq_some_iff, unescapeChars?, Option.bind_eq_some_iff]
  constructor
  · rintro ⟨us, read, decoded⟩
    obtain ⟨quads, _, reads⟩ := unitsOfEscaped?_eq_some_iff.mp read
    have bounded := (forall₂_readsAs_iff.mp reads).2.1
    rw [(Utf16.decode?_eq_some_iff bounded).mp decoded]
    exact read
  · intro read
    exact ⟨_, read, Utf16.decode?_units s⟩

theorem length_hexQuad (u : Nat) : (hexQuad u).length = 4 := rfl

theorem isUpperHexDigit_of_mem_hexQuad {u : Nat} (unit : u < 0x10000) :
    ∀ c ∈ hexQuad u, IsUpperHexDigit c := by
  intro c hc
  simp only [hexQuad, List.mem_cons, List.not_mem_nil, or_false] at hc
  rcases hc with rfl | rfl | rfl | rfl <;> exact isUpperHexDigit_upperHexDigit _ (by omega)

theorem readsAs_hexQuad {u : Nat} (unit : u < 0x10000) : ReadsAs (hexQuad u) u := by
  obtain ⟨digits, _, written⟩ := isHexQuad_of_hexNumber? (length_hexQuad u) (hexNumber?_hexQuad unit)
  have plain := digits.unsigned_eq
  exact ⟨plain.symm ▸ digits, unit, by rwa [spelled, plain]⟩

theorem unescapeChars?_escapeChars (s : List Char) : unescapeChars? (escapeChars s) = some s := by
  refine unescapeChars?_eq_some_iff.mpr ⟨_, escapeChars_eq_grouped s, ?_⟩
  rw [List.forall₂_map_left_iff, List.forall₂_same]
  exact fun u hu => readsAs_hexQuad (Utf16.unit_lt_of_mem_units hu)

end Texts

theorem toList_escape (t : String) : (escape t).toList = escapeChars t.toList :=
  String.toList_ofList

theorem escape_append (s t : String) : escape (s ++ t) = escape s ++ escape t := by
  rw [← String.toList_inj]
  simp [toList_escape, escapeChars_append]

theorem unescape?_eq_some_iff {e t : String} :
    unescape? e = some t ↔ unescapeChars? e.toList = some t.toList := by
  rw [unescape?, Option.map_eq_some_iff]
  constructor
  · rintro ⟨s, read, rfl⟩
    rwa [String.toList_ofList]
  · intro read
    exact ⟨_, read, String.ofList_toList⟩

theorem unescape?_escape (t : String) : unescape? (escape t) = some t := by
  rw [unescape?_eq_some_iff, toList_escape, unescapeChars?_escapeChars]

end Text
end JavaStubs
