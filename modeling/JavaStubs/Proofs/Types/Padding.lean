import JavaStubs.Proofs.Types.Brackets
import JavaStubs.Proofs.Types.TypeNames
import JavaStubs.Stub.Obligation

/-!
# What makes no difference to a type

A text is read through its erasure: the erased text denotes the same type, and nothing of it is left
to erase. So blanks and generic arguments may be put in anywhere outside of brackets. A type that was
read is written as its binary name, and no other type that was read has that name.
-/

namespace JavaStubs
namespace TypeRef

open Text

variable {depth : Nat} {s s' front back padding : List Char}

/-! ## Erased texts -/

theorem isOutside_of_mem_outside {c : Char} (h : c ∈ outside depth s) :
    c ≠ '<' ∧ c ≠ '>' ∧ ¬ isBlank c := by
  obtain ⟨⟨front, d⟩, place, rfl⟩ := List.mem_map.mp h
  exact (isOutside_iff.mp (List.mem_filter.mp place).2).2

theorem erase_of_erased {e : List Char} (erased : erase s = .ok e) : erase e = .ok e := by
  obtain ⟨-, rfl⟩ := erase_eq_ok_iff.mp erased
  exact erase_eq_self fun c hc => isOutside_of_mem_outside hc

/-! ## Padding -/

/-- A blank, or generic arguments in their brackets. -/
inductive IsPadding : List Char → Prop
  | blank {c : Char} (h : isBlank c) : IsPadding [c]
  | arguments {inner : List Char} (balanced : Balanced 0 inner) :
      IsPadding ('<' :: (inner ++ ['>']))

/-- The text with paddings put in outside of brackets. -/
inductive Padded (s : List Char) : List Char → Prop
  | refl : Padded s s
  | insert {front back padding : List Char} (before : Padded s (front ++ back))
      (outer : Balanced 0 front) (isPadding : IsPadding padding) :
      Padded s (front ++ padding ++ back)

/-- Nowhere in a text without stray brackets are more brackets closed than opened. -/
theorem count_close_le (noStray : ¬ HasStrayClose depth s) (begins : front <+: s) :
    front.count '>' ≤ depth + front.count '<' := by
  induction front using List.reverseRecOn with
  | nil => simp
  | append_singleton front c ih =>
    have before := ih ((List.prefix_append front [c]).trans begins)
    by_cases closing : c = '>'
    · subst closing
      -- With all brackets closed in front of it, this one would be a stray one.
      have opened : ¬ Reaches depth front 0 := by
        intro level
        obtain ⟨back, rfl⟩ := begins
        exact noStray ⟨front, back, by simp, level⟩
      simp only [Reaches] at opened
      simp
      omega
    · simp [closing]
      omega

/-- Inside of brackets a balanced text leaves no trace. -/
theorem eraseFrom_enclosed (balanced : Balanced 0 front) :
    eraseFrom 1 (front ++ '>' :: back) = eraseFrom 0 back := by
  have deep : ∀ begins, begins <+: front → ¬ Reaches 1 begins 0 := by
    intro begins h level
    have few := count_close_le balanced.noStray h
    simp only [Reaches] at level
    omega
  have noStray : ¬ HasStrayClose 1 front := by
    rintro ⟨begins, rest, rfl, level⟩
    exact deep begins (List.prefix_append _ _) level
  have same : Reaches 1 front 1 := by
    have level := balanced.level
    simp only [Reaches] at level ⊢
    omega
  have nothing : outside 1 front = [] := by
    rw [outside, List.map_eq_nil_iff, List.filter_eq_nil_iff]
    rintro ⟨begins, c⟩ place outer
    have mem := (List.of_mem_zip place).1
    exact deep begins (List.mem_inits _ _ |>.mp mem) (isOutside_iff.mp outer).1
  rw [eraseFrom_append noStray same, nothing, map_nil_append]
  rfl

theorem IsPadding.erase_append (h : IsPadding padding) : erase (padding ++ back) = erase back := by
  cases h with
  | @blank c blank =>
    have opening : c ≠ '<' := by
      rintro rfl
      exact absurd blank (by decide)
    have closing : c ≠ '>' := by
      rintro rfl
      exact absurd blank (by decide)
    rw [erase, List.singleton_append, eraseFrom.eq_def]
    simp [erase, opening, closing, blank]
  | @arguments inner balanced =>
    have text : '<' :: (inner ++ ['>']) ++ back = '<' :: (inner ++ '>' :: back) := by simp
    rw [text]
    exact eraseFrom_enclosed balanced

theorem Padded.erase_eq (h : Padded s s') : erase s' = erase s := by
  induction h with
  | refl => rfl
  | @insert front back padding _ outer isPadding ih =>
    rw [List.append_assoc, ← ih]
    unfold erase
    rw [eraseFrom_append outer.noStray outer.level, eraseFrom_append outer.noStray outer.level]
    exact congrArg _ isPadding.erase_append

/-! ## Readings -/

/-- Both texts denote the same type, or the same is wrong with both. -/
def SameReading (s s' : String) : Prop :=
  (parse s).mapError Malformed.fault = (parse s').mapError Malformed.fault

theorem sameReading_of_erase {s s' : String} (same : erase s.toList = erase s'.toList) :
    SameReading s s' := by
  rw [SameReading, parse_eq, parse_eq, same]
  cases (erase s'.toList).bind ofErased <;> rfl

def Denote (texts : List String) (types : List TypeRef) : Prop :=
  List.Forall₂ (fun text t => parse text = .ok t) texts types

/-- Each text of the second list is the one at its place with paddings put in. -/
def AllPadded (texts texts' : List String) : Prop :=
  List.Forall₂ (fun text text' => Padded text.toList text'.toList) texts texts'

theorem Denote.eq_of_padded {texts texts' : List String} {types types' : List TypeRef}
    (h : Denote texts types) (h' : Denote texts' types') (padded : AllPadded texts texts') :
    types = types' := by
  induction padded generalizing types types' with
  | nil =>
    cases h
    cases h'
    rfl
  | cons first _ ih =>
    cases h with
    | cons read later =>
      cases h' with
      | cons read' later' =>
        have same := sameReading_of_erase first.erase_eq
        rw [SameReading, read, read'] at same
        rw [ih later later', Except.ok.inj same]

/-- A text is read through its erasure, and what is read is written as its binary name. -/
structure ReadThroughErasure (s : String) : Prop where
  roundTrip : ∀ t, parse s = .ok t → parse t.binaryName = .ok t
  injective : ∀ t s' t', parse s = .ok t → parse s' = .ok t' → t.binaryName = t'.binaryName → t = t'
  erased : ∀ e, erase s.toList = .ok e → erase e = .ok e ∧ SameReading s (String.ofList e)
  padded : ∀ s', Padded s.toList s'.toList → SameReading s s'

theorem parse_throughErasure :
    (∀ s, ReadThroughErasure s) ∧
      ∀ (m m' : MemberObligation) (texts texts' : List String), m.name = m'.name →
        Denote texts m.params → Denote texts' m'.params → AllPadded texts texts' →
        m.signature = m'.signature := by
  refine ⟨fun s => ?_, fun m m' texts texts' name params params' padded => ?_⟩
  · constructor
    case roundTrip => exact fun t ok => (isDenoted_of_parse ok).parse_binaryName
    case injective =>
      intro t s' t' ok ok' same
      have read := (isDenoted_of_parse ok).parse_binaryName
      rw [same, (isDenoted_of_parse ok').parse_binaryName] at read
      exact (Except.ok.inj read).symm
    case erased =>
      intro e erased
      have again := erase_of_erased erased
      refine ⟨again, sameReading_of_erase ?_⟩
      rw [erased, String.toList_ofList, again]
    case padded => exact fun s' padded => sameReading_of_erase padded.erase_eq.symm
  · rw [MemberObligation.signature, MemberObligation.signature, name,
      params.eq_of_padded params' padded]

def mapText : String := "java.util.Map[]"

def genericText : String := "java.util.Map<K, V<K>>[]"

theorem padded_genericText : Padded mapText.toList genericText.toList := by
  have front : Balanced 0 "java.util.Map".toList :=
    (erase_eq_ok_iff.mp (by decide +kernel : erase _ = .ok "java.util.Map".toList)).1
  have inner : Balanced 0 "K, V<K>".toList :=
    (erase_eq_ok_iff.mp (by decide +kernel : erase _ = .ok "K,V".toList)).1
  have before : Padded mapText.toList ("java.util.Map".toList ++ "[]".toList) := .refl
  exact before.insert front (.arguments inner)

/-- Two methods that take an array of maps. -/
def putAll : MemberObligation := ⟨"putAll", [.array (.named "java.util.Map")], .void, [], .none⟩

def genericPutAll : MemberObligation := { putAll with returns := .primitive .boolean }

theorem putAll_throughErasure :
    Denote [mapText] putAll.params ∧ Denote [genericText] genericPutAll.params ∧
      AllPadded [mapText] [genericText] ∧ putAll.signature = genericPutAll.signature := by
  have read : Denote [mapText] putAll.params := .cons (by decide +kernel) .nil
  have read' : Denote [genericText] genericPutAll.params := .cons (by decide +kernel) .nil
  have padded : AllPadded [mapText] [genericText] := .cons padded_genericText .nil
  exact ⟨read, read', padded, parse_throughErasure.2 _ _ _ _ rfl read read' padded⟩

end TypeRef
end JavaStubs
