import JavaStubs.Text.Pieces

/-!
# Modifiers

A set of modifiers is kept in the bit layout of class files, so that bits which no keyword names
survive. The keyword `varargs` reads as the bit of `transient`, which marks a variable number of
parameters on methods and constructors.
-/

namespace JavaStubs

inductive Modifier
  | publicAccess | protectedAccess | privateAccess | abstract | static | final | transient
  | volatile | synchronized | native | strictfp | interface
  deriving DecidableEq, Repr

namespace Modifier

/-- All modifiers in the order in which source text lists them. -/
def all : List Modifier :=
  [publicAccess, protectedAccess, privateAccess, abstract, static, final, transient, volatile,
    synchronized, native, strictfp, interface]

def keyword : Modifier → String
  | publicAccess => "public"
  | protectedAccess => "protected"
  | privateAccess => "private"
  | abstract => "abstract"
  | static => "static"
  | final => "final"
  | transient => "transient"
  | volatile => "volatile"
  | synchronized => "synchronized"
  | native => "native"
  | strictfp => "strictfp"
  | interface => "interface"

def mask : Modifier → BitVec 16
  | publicAccess => 0x0001
  | privateAccess => 0x0002
  | protectedAccess => 0x0004
  | static => 0x0008
  | final => 0x0010
  | synchronized => 0x0020
  | volatile => 0x0040
  | transient => 0x0080
  | native => 0x0100
  | interface => 0x0200
  | abstract => 0x0400
  | strictfp => 0x0800

/-- The modifier of a keyword; `varargs` stands for `transient`. -/
def ofKeyword? (word : String) : Option Modifier :=
  if word = "varargs" then some transient else all.find? fun m => m.keyword = word

theorem mem_all (m : Modifier) : m ∈ all := by cases m <;> decide

theorem ofKeyword?_keyword (m : Modifier) : ofKeyword? m.keyword = some m := by
  cases m <;> decide

end Modifier

structure Modifiers where
  bits : BitVec 16
  deriving DecidableEq, Repr

namespace Modifiers

def none : Modifiers := ⟨0⟩

def single (m : Modifier) : Modifiers := ⟨m.mask⟩

def union (s t : Modifiers) : Modifiers := ⟨s.bits ||| t.bits⟩

def inter (s t : Modifiers) : Modifiers := ⟨s.bits &&& t.bits⟩

/-- The members of `s` that are not in `t`. -/
def without (s t : Modifiers) : Modifiers := ⟨s.bits &&& ~~~t.bits⟩

def insert (s : Modifiers) (m : Modifier) : Modifiers := s.union (single m)

def ofList (ms : List Modifier) : Modifiers := ms.foldl insert none

/-- Whether every member of `t` is in `s`. -/
def contains (s t : Modifiers) : Bool := s.bits &&& t.bits == t.bits

def has (s : Modifiers) (m : Modifier) : Bool := s.contains (single m)

def isEmpty (s : Modifiers) : Bool := s.bits == 0

/-- Modifiers that generated code never carries. -/
def nonEmittable : Modifiers := ofList [.abstract, .transient, .interface]

/-- The modifiers that survive onto generated code. -/
def emittable (s : Modifiers) : Modifiers := s.without nonEmittable

/-- Modifiers that say who may use a declaration. -/
def access : Modifiers := ofList [.publicAccess, .protectedAccess, .privateAccess]

/-- The members that have a keyword, in source order. -/
def toList (s : Modifiers) : List Modifier := Modifier.all.filter s.has

def keywords (s : Modifiers) : List String := s.toList.map Modifier.keyword

/-- The keywords with a blank between neighbours. -/
def text (s : Modifiers) : String := Text.joinStrings " " s.keywords

/-- The set of a list of keywords, or the first word that is no keyword. -/
def ofKeywords (words : List String) : Except String Modifiers :=
  go none words
where
  go (acc : Modifiers) : List String → Except String Modifiers
    | [] => .ok acc
    | word :: rest =>
      match Modifier.ofKeyword? word with
      | some m => go (acc.insert m) rest
      | Option.none => .error word

theorem union_bits (s t : Modifiers) : (s.union t).bits = s.bits ||| t.bits := rfl

theorem has_none (m : Modifier) : none.has m = false := by cases m <;> decide

/-- A modifier is in a set exactly if its bit is. -/
theorem has_iff (s : Modifiers) (m : Modifier) : s.has m ↔ s.bits &&& m.mask ≠ 0 := by
  obtain ⟨b⟩ := s
  have key : ∀ i : Nat, i < 16 → ∀ b : BitVec 16,
      (b &&& BitVec.twoPow 16 i = BitVec.twoPow 16 i ↔ b &&& BitVec.twoPow 16 i ≠ 0) := by
    intro i hi b
    have h : b &&& BitVec.twoPow 16 i = if b.getLsbD i then BitVec.twoPow 16 i else 0#16 :=
      BitVec.and_twoPow b i
    have hne : BitVec.twoPow 16 i ≠ 0#16 := by
      intro h0
      have := congrArg (·.getLsbD i) h0
      simp [hi] at this
    rw [h]
    split
    · simpa using hne
    · simpa using hne.symm
  have hm : ∃ i < 16, m.mask = BitVec.twoPow 16 i := by
    cases m <;> decide
  obtain ⟨i, hi, hm⟩ := hm
  simpa [has, contains, single, hm] using key i hi b

theorem mask_and_mask (m n : Modifier) : m.mask &&& n.mask = if m = n then n.mask else 0 := by
  cases m <;> cases n <;> rfl

theorem mask_ne_zero (m : Modifier) : m.mask ≠ 0 := by cases m <;> decide

theorem has_insert {s : Modifiers} {m n : Modifier} : (s.insert m).has n ↔ s.has n ∨ m = n := by
  have bits : (s.insert m).bits &&& n.mask = (s.bits &&& n.mask) ||| (m.mask &&& n.mask) :=
    BitVec.and_or_distrib_right
  rw [has_iff, has_iff, bits, mask_and_mask]
  by_cases same : m = n
  · have set : n.mask ≠ 0#16 := mask_ne_zero n
    simp [same, BitVec.or_eq_zero_iff, set]
  · simp [same]

theorem insert_of_has {s : Modifiers} {m : Modifier} (h : s.has m) : s.insert m = s := by
  have inside : s.bits &&& m.mask = m.mask := by simpa [has, contains, single] using h
  have bits : s.bits ||| m.mask = s.bits := by
    rw [← inside]
    ext i hi
    simp only [BitVec.getElem_or, BitVec.getElem_and]
    cases s.bits[i] <;> simp
  simp [insert, union, single, bits]

end Modifiers
end JavaStubs
