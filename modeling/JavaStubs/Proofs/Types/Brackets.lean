import JavaStubs.Types.TypeRef
import Mathlib.Data.List.Infix

/-!
# Text outside of angle brackets

How deep a place in a text lies is told by counting the brackets in front of it. Erasure, which reads
a text once from left to right, keeps exactly the characters at depth zero that are neither brackets
nor blanks. It fails where a bracket closes at depth zero, and on a text that ends at another depth.
-/

namespace JavaStubs
namespace TypeRef

open Text

/-! ## Depth -/

/-- Behind `front` there are `next` brackets open, if `depth` of them were open before it. -/
def Reaches (depth : Nat) (front : List Char) (next : Nat) : Prop :=
  depth + front.count '<' = next + front.count '>'

instance (depth : Nat) (front : List Char) (next : Nat) : Decidable (Reaches depth front next) :=
  inferInstanceAs (Decidable (_ = _))

/-- A bracket is closed where none is open. -/
def HasStrayClose (depth : Nat) (s : List Char) : Prop :=
  ∃ front back, s = front ++ '>' :: back ∧ Reaches depth front 0

/-- Every bracket that is closed was open, and all of them are closed at the end. -/
structure Balanced (depth : Nat) (s : List Char) : Prop where
  noStray : ¬ HasStrayClose depth s
  level : Reaches depth s 0

/-- Whether a character behind `front` lies outside of brackets and is no blank. -/
def isOutside (depth : Nat) (front : List Char) (c : Char) : Bool :=
  Reaches depth front 0 && c ≠ '<' && c ≠ '>' && !isBlank c

/-- The characters outside of brackets, without blanks. -/
def outside (depth : Nat) (s : List Char) : List Char :=
  ((s.inits.zip s).filter fun place => isOutside depth place.1 place.2).map Prod.snd

variable {depth next k : Nat} {c : Char} {s front back : List Char}

theorem isOutside_iff :
    isOutside depth front c ↔ Reaches depth front 0 ∧ c ≠ '<' ∧ c ≠ '>' ∧ ¬ isBlank c := by
  simp only [isOutside, Bool.and_eq_true, decide_eq_true_eq, Bool.not_eq_true', Bool.not_eq_true,
    and_assoc]

theorem reaches_nil : Reaches depth [] k ↔ depth = k := by simp [Reaches]

theorem Reaches.append_iff (h : Reaches depth front next) :
    Reaches depth (front ++ back) k ↔ Reaches next back k := by
  simp only [Reaches, List.count_append] at h ⊢
  omega

theorem Reaches.cons_iff (h : Reaches depth [c] next) :
    Reaches depth (c :: s) k ↔ Reaches next s k := by
  rw [← List.singleton_append, h.append_iff]

/-! ## One character further -/

theorem hasStrayClose_cons (h : Reaches depth [c] next) :
    HasStrayClose depth (c :: s) ↔ (c = '>' ∧ depth = 0) ∨ HasStrayClose next s := by
  constructor
  · rintro ⟨front, back, text, level⟩
    cases front with
    | nil =>
      obtain ⟨rfl, rfl⟩ := List.cons.inj text
      exact .inl ⟨rfl, reaches_nil.mp level⟩
    | cons d front =>
      obtain ⟨rfl, rfl⟩ := List.cons.inj text
      exact .inr ⟨front, back, rfl, h.cons_iff.mp level⟩
  · rintro (⟨rfl, rfl⟩ | ⟨front, back, rfl, level⟩)
    · exact ⟨[], s, rfl, rfl⟩
    · exact ⟨c :: front, back, rfl, h.cons_iff.mpr level⟩

def kept (depth : Nat) (c : Char) : List Char := if isOutside depth [] c then [c] else []

theorem outside_cons (h : Reaches depth [c] next) :
    outside depth (c :: s) = kept depth c ++ outside next s := by
  have later (place : List Char × Char) :
      isOutside depth (c :: place.1) place.2 = isOutside next place.1 place.2 := by
    rw [Bool.eq_iff_iff, isOutside_iff, isOutside_iff, h.cons_iff]
  have places : (c :: s).inits.zip (c :: s) =
      ([], c) :: (s.inits.zip s).map fun place => (c :: place.1, place.2) := by
    rw [List.inits, List.zip_cons_cons, List.zip_map_left]
    rfl
  simp only [outside, kept, places, List.filter_cons, List.filter_map, Function.comp_def, later]
  split <;> simp

theorem map_nil_append (x : Except Fault (List Char)) : x.map ([] ++ ·) = x := by
  cases x <;> rfl

/-- Erasure stops at a stray bracket. Of any other character it keeps what lies outside, and goes on
at the depth behind it. -/
theorem eraseFrom_cons (depth : Nat) (c : Char) :
    (c = '>' ∧ depth = 0) ∨ ∃ next, Reaches depth [c] next ∧
      ∀ s, eraseFrom depth (c :: s) = (eraseFrom next s).map (kept depth c ++ ·) := by
  by_cases opening : c = '<'
  · subst opening
    have dropped : kept depth '<' = [] := by simp [kept, isOutside]
    refine .inr ⟨depth + 1, by simp [Reaches], fun s => ?_⟩
    rw [dropped, map_nil_append]
    cases depth <;> rfl
  by_cases closing : c = '>'
  · subst closing
    cases depth with
    | zero => exact .inl ⟨rfl, rfl⟩
    | succ outer =>
      have dropped : kept (outer + 1) '>' = [] := by simp [kept, isOutside]
      refine .inr ⟨outer, by simp [Reaches], fun s => ?_⟩
      rw [dropped, map_nil_append]
      rfl
  · refine .inr ⟨depth, by simp [Reaches, opening, closing], fun s => ?_⟩
    have outer : isOutside depth [] c ↔ depth = 0 ∧ !isBlank c := by
      rw [isOutside_iff, reaches_nil]
      simp [opening, closing]
    rw [eraseFrom.eq_def]
    by_cases shown : depth = 0 ∧ !isBlank c
    · rw [kept, if_pos (outer.mpr shown)]
      obtain ⟨rfl, visible⟩ := shown
      simp only [if_neg opening, if_neg closing, if_pos (And.intro trivial visible)]
      rfl
    · rw [kept, if_neg (mt outer.mp shown), map_nil_append]
      simp only [if_neg opening, if_neg closing, if_neg shown]

/-! ## Erasure -/

inductive Erasure (depth : Nat) (s : List Char) : Except Fault (List Char) → Prop
  | strayClose (stray : HasStrayClose depth s) : Erasure depth s (.error .strayClose)
  | missingClose (noStray : ¬ HasStrayClose depth s) (unclosed : ¬ Reaches depth s 0) :
      Erasure depth s (.error .missingClose)
  | erased (balanced : Balanced depth s) : Erasure depth s (.ok (outside depth s))

theorem Erasure.cons {result : Except Fault (List Char)} (h : Reaches depth [c] next)
    (noStray : ¬ (c = '>' ∧ depth = 0)) (later : Erasure next s result) :
    Erasure depth (c :: s) (result.map (kept depth c ++ ·)) := by
  have strays := hasStrayClose_cons (s := s) h
  cases later with
  | strayClose stray => exact .strayClose (strays.mpr (.inr stray))
  | missingClose noLater unclosed =>
    exact .missingClose (fun stray => (strays.mp stray).elim noStray noLater)
      (mt h.cons_iff.mp unclosed)
  | erased balanced =>
    rw [Except.map, ← outside_cons h]
    exact .erased ⟨fun stray => (strays.mp stray).elim noStray balanced.noStray,
      h.cons_iff.mpr balanced.level⟩

theorem erasure_eraseFrom (depth : Nat) (s : List Char) : Erasure depth s (eraseFrom depth s) := by
  induction s generalizing depth with
  | nil =>
    have noStray : ¬ HasStrayClose depth [] := by
      rintro ⟨front, back, text, -⟩
      simp at text
    cases depth with
    | zero => exact .erased ⟨noStray, rfl⟩
    | succ outer => exact .missingClose noStray (by simp [reaches_nil])
  | cons c s ih =>
    by_cases stray : c = '>' ∧ depth = 0
    · obtain ⟨rfl, rfl⟩ := stray
      exact .strayClose ⟨[], s, rfl, rfl⟩
    · obtain ⟨next, h, step⟩ := (eraseFrom_cons depth c).resolve_left stray
      rw [step]
      exact (ih next).cons h stray

theorem Erasure.unique {r r' : Except Fault (List Char)} (h : Erasure depth s r)
    (h' : Erasure depth s r') : r = r' := by
  cases h with
  | strayClose stray =>
    cases h' with
    | strayClose => rfl
    | missingClose noStray => exact absurd stray noStray
    | erased balanced => exact absurd stray balanced.noStray
  | missingClose noStray unclosed =>
    cases h' with
    | strayClose stray => exact absurd stray noStray
    | missingClose => rfl
    | erased balanced => exact absurd balanced.level unclosed
  | erased balanced =>
    cases h' with
    | strayClose stray => exact absurd stray balanced.noStray
    | missingClose _ unclosed => exact absurd balanced.level unclosed
    | erased => rfl

theorem erase_eq_iff {r : Except Fault (List Char)} : erase s = r ↔ Erasure 0 s r := by
  constructor
  · rintro rfl
    exact erasure_eraseFrom 0 s
  · exact (erasure_eraseFrom 0 s).unique

theorem erase_eq_ok_iff {e : List Char} : erase s = .ok e ↔ Balanced 0 s ∧ e = outside 0 s := by
  rw [erase_eq_iff]
  constructor
  · rintro (_ | _ | balanced)
    exact ⟨balanced, rfl⟩
  · rintro ⟨balanced, rfl⟩
    exact .erased balanced

/-- A front without stray brackets is erased by itself. -/
theorem eraseFrom_append (noStray : ¬ HasStrayClose depth front) (h : Reaches depth front next) :
    eraseFrom depth (front ++ back) = (eraseFrom next back).map (outside depth front ++ ·) := by
  induction front generalizing depth with
  | nil =>
    obtain rfl := reaches_nil.mp h
    exact (map_nil_append _).symm
  | cons c front ih =>
    rcases eraseFrom_cons depth c with ⟨rfl, rfl⟩ | ⟨k, first, step⟩
    · exact absurd ⟨[], front, rfl, rfl⟩ noStray
    · have later := mt (fun stray => (hasStrayClose_cons first).mpr (.inr stray)) noStray
      rw [List.cons_append, step, ih later (first.cons_iff.mp h), outside_cons first]
      cases eraseFrom next back <;> simp [Except.map]

end TypeRef
end JavaStubs
