import JavaStubs.Proofs.Outcome
import JavaStubs.Types.TypeRef
import Mathlib.Data.List.Basic

/-!
# Names of types

Which type references a text can denote, and that each of them is denoted by its own binary name. No
blank is part of a name, so a binary name is left alone by erasure, and its brackets are taken off
one pair for each dimension.
-/

namespace JavaStubs

namespace Text

theorem exists_of_inRanges {table : List (Nat × Nat)} {n : Nat} (h : inRanges table n) :
    ∃ r ∈ table, r.1 ≤ n ∧ n ≤ r.2 := by
  induction table with
  | nil => cases h
  | cons r rest ih =>
    obtain ⟨lo, hi⟩ := r
    rw [inRanges] at h
    split at h
    case isTrue => cases h
    case isFalse low =>
      rw [Bool.or_eq_true, decide_eq_true_eq] at h
      rcases h with high | later
      · exact ⟨(lo, hi), List.mem_cons_self, by omega, high⟩
      · obtain ⟨r, hr, within⟩ := ih later
        exact ⟨r, List.mem_cons_of_mem _ hr, within⟩

def blankCodes : List Nat :=
  CharTable.blankRanges.flatMap fun (lo, hi) => List.range' lo (hi + 1 - lo)

theorem mem_blankCodes {c : Char} (h : isBlank c) : c.toNat ∈ blankCodes := by
  obtain ⟨⟨lo, hi⟩, mem, low, high⟩ := exists_of_inRanges h
  refine List.mem_flatMap.mpr ⟨(lo, hi), mem, ?_⟩
  rw [List.mem_range'_1]
  omega

theorem not_letterOrNumber_of_mem_blankCodes : ∀ n ∈ blankCodes,
    (inRanges CharTable.letterRanges n || inRanges CharTable.numberRanges n) = false := by
  decide +kernel

theorem not_isBlank_of_isLetterOrNumber {c : Char} (h : isLetterOrNumber c) : ¬ isBlank c := by
  intro blank
  have neither := not_letterOrNumber_of_mem_blankCodes _ (mem_blankCodes blank)
  rw [isLetterOrNumber, isLetter, isNumber, neither] at h
  cases h

end Text

namespace TypeRef

open Text

/-- A character that a name may have, or a dot between two names. -/
def isNameChar (c : Char) : Bool := isNamePart c || c = '.'

theorem isNamePart_of_isNameStart {c : Char} (h : isNameStart c) : isNamePart c := by
  simp only [isNameStart, isNamePart, isLetterOrNumber, Bool.or_eq_true] at h ⊢
  tauto

theorem isNameChar_iff {c : Char} : isNameChar c ↔ isNamePart c ∨ c = '.' := by
  simp [isNameChar]

theorem not_isBlank_of_isNameChar {c : Char} (h : isNameChar c) : ¬ isBlank c := by
  rcases isNameChar_iff.mp h with part | rfl
  · simp only [isNamePart, Bool.or_eq_true, decide_eq_true_eq] at part
    rcases part with (part | rfl) | rfl
    · exact not_isBlank_of_isLetterOrNumber part
    · decide
    · decide
  · decide

theorem isNamePart_of_mem_segment {segment : List Char} (h : isSegment segment) {c : Char}
    (hc : c ∈ segment) : isNamePart c := by
  cases segment with
  | nil => cases hc
  | cons first rest =>
    simp only [isSegment, Bool.and_eq_true, List.all_eq_true] at h
    rcases List.mem_cons.mp hc with rfl | hc
    · exact isNamePart_of_isNameStart h.1
    · exact h.2 c hc

theorem isNameChar_of_mem {name : List Char} (binary : isBinaryName name) {c : Char}
    (hc : c ∈ name) : isNameChar c := by
  simp only [isBinaryName, List.all_eq_true] at binary
  rw [← join_split '.' name] at hc
  rcases mem_of_mem_join hc with dot | ⟨segment, mem, hc⟩
  · exact isNameChar_iff.mpr (.inr (List.mem_singleton.mp dot))
  · exact isNameChar_iff.mpr (.inl (isNamePart_of_mem_segment (binary segment mem) hc))

theorem exists_last_of_isBinaryName {name : List Char} (binary : isBinaryName name) :
    ∃ front c, name = front ++ [c] ∧ isNamePart c := by
  rcases List.eq_nil_or_concat' name with rfl | ⟨front, c, rfl⟩
  · cases binary
  · refine ⟨front, c, rfl, ?_⟩
    have inName := isNameChar_of_mem binary (List.mem_append_right front List.mem_cons_self)
    rcases isNameChar_iff.mp inName with part | rfl
    · exact part
    · simp [isBinaryName, split_append_sep, split, isSegment] at binary

section Erasure

theorem erase_eq_self {s : List Char} (plain : ∀ c ∈ s, c ≠ '<' ∧ c ≠ '>' ∧ ¬ isBlank c) :
    erase s = .ok s := by
  unfold erase
  induction s with
  | nil => rfl
  | cons c rest ih =>
    obtain ⟨opening, closing, blank⟩ := plain c List.mem_cons_self
    rw [eraseFrom, if_neg opening, if_neg closing, if_pos ⟨rfl, by simpa using blank⟩,
      ih fun c hc => plain c (List.mem_cons_of_mem _ hc)]
    rfl

end Erasure

section Dimensions

def brackets : Nat → List Char
  | 0 => []
  | n + 1 => brackets n ++ ['[', ']']

theorem toList_binaryName_arrayOf (n : Nat) (t : TypeRef) :
    (arrayOf n t).binaryName.toList = t.binaryName.toList ++ brackets n := by
  induction n with
  | zero => simp [arrayOf, brackets]
  | succ n ih => simp [arrayOf, binaryName, brackets, ih]

theorem takeBrackets_brackets (n : Nat) (s : List Char) :
    takeBrackets ((brackets n).reverse ++ s) = (n + (takeBrackets s).1, (takeBrackets s).2) := by
  induction n with
  | zero => simp [brackets]
  | succ n ih =>
    simp only [brackets, List.reverse_append, List.reverse_cons, List.reverse_nil, List.nil_append,
      List.cons_append, takeBrackets, ih]
    simp only [Prod.mk.injEq, and_true]
    omega

theorem takeBrackets_of_head {c : Char} {s : List Char} (h : c ≠ ']') :
    takeBrackets (c :: s) = (0, c :: s) := by
  unfold takeBrackets
  split
  · simp_all
  · rfl

theorem takeEllipsis_of_head {c : Char} {s : List Char} (h : c ≠ '.') :
    takeEllipsis (c :: s) = (0, c :: s) := by
  unfold takeEllipsis
  split
  · simp_all
  · rfl

/-- The brackets after a binary name, and no other character, are taken off. -/
theorem takeBrackets_append_brackets {base : List Char} (binary : isBinaryName base) (n : Nat) :
    takeBrackets (base ++ brackets n).reverse = (n, base.reverse) := by
  obtain ⟨front, c, rfl, part⟩ := exists_last_of_isBinaryName binary
  have notBracket : c ≠ ']' := by
    rintro rfl
    exact absurd part (by decide)
  have backwards : (front ++ [c] ++ brackets n).reverse =
      (brackets n).reverse ++ c :: front.reverse := by simp
  rw [backwards, takeBrackets_brackets, takeBrackets_of_head notBracket]
  simp

/-- A binary name with brackets does not end in a dot. -/
theorem takeEllipsis_append_brackets {base : List Char} (binary : isBinaryName base) (n : Nat) :
    takeEllipsis (base ++ brackets n).reverse = (0, (base ++ brackets n).reverse) := by
  cases n with
  | zero =>
    obtain ⟨front, c, rfl, part⟩ := exists_last_of_isBinaryName binary
    have notDot : c ≠ '.' := by
      rintro rfl
      exact absurd part (by decide)
    simpa [brackets] using takeEllipsis_of_head notDot
  | succ n => simpa [brackets] using takeEllipsis_of_head (by decide : ']' ≠ '.')

theorem splitDimensions_append_brackets {base : List Char} (binary : isBinaryName base) (n : Nat) :
    splitDimensions (base ++ brackets n) = (base, n) := by
  simp only [splitDimensions, takeEllipsis_append_brackets binary,
    takeBrackets_append_brackets binary, List.reverse_reverse, Nat.zero_add]

end Dimensions

/-- The references that texts denote: a primitive or a binary name that is no keyword, with any
number of dimensions, except that there are no arrays of `void`. -/
inductive IsDenoted : TypeRef → Prop
  | primitive {n : Nat} {p : Primitive} (noVoid : n = 0 ∨ p ≠ .void) :
      IsDenoted (arrayOf n (.primitive p))
  | named {n : Nat} {name : String} (binary : isBinaryName name.toList)
      (noKeyword : Primitive.ofKeyword? name = none) : IsDenoted (arrayOf n (.named name))

theorem isDenoted_of_ofErased {erased : List Char} {t : TypeRef} (ok : ofErased erased = .ok t) :
    t.IsDenoted := by
  unfold ofErased at ok
  cases hsplit : splitDimensions erased with | mk base n =>
  simp only [hsplit] at ok
  split at ok
  case h_1 p _ =>
    split at ok
    case isTrue => cases ok
    case isFalse noVoid =>
      obtain rfl := Except.ok.inj ok
      refine .primitive ?_
      by_contra h
      rw [not_or, not_not] at h
      exact noVoid ⟨Nat.pos_of_ne_zero h.1, h.2⟩
  case h_2 noKeyword =>
    split at ok
    case isTrue binary =>
      obtain rfl := Except.ok.inj ok
      exact .named (by simpa using binary) noKeyword
    case isFalse => cases ok

/-- A text is read by erasing it first, and a fault is told along with the whole text. -/
theorem parse_eq (s : String) :
    parse s = ((erase s.toList).bind ofErased).mapError (Malformed.mk s) := by
  unfold parse
  cases (erase s.toList).bind ofErased <;> rfl

theorem parse_eq_ok_iff {s : String} {t : TypeRef} :
    parse s = .ok t ↔ ∃ e, erase s.toList = .ok e ∧ ofErased e = .ok t := by
  rw [parse_eq, Outcome.mapError_eq_ok_iff]
  exact Outcome.bind_eq_ok_iff

theorem parse_eq_error_iff {s : String} {m : Malformed} :
    parse s = .error m ↔ m.input = s ∧ (erase s.toList = .error m.fault ∨
      ∃ e, erase s.toList = .ok e ∧ ofErased e = .error m.fault) := by
  have erring : (∃ fault, (erase s.toList).bind ofErased = .error fault ∧ Malformed.mk s fault = m) ↔
      m.input = s ∧ (erase s.toList).bind ofErased = .error m.fault := by
    constructor
    · rintro ⟨fault, failed, rfl⟩
      exact ⟨rfl, failed⟩
    · rintro ⟨rfl, failed⟩
      exact ⟨m.fault, failed, rfl⟩
  rw [parse_eq, Outcome.mapError_eq_error_iff, erring]
  exact and_congr_right fun _ => Outcome.bind_eq_error_iff

theorem isDenoted_of_parse {text : String} {t : TypeRef} (ok : parse text = .ok t) :
    t.IsDenoted := by
  obtain ⟨_, _, read⟩ := parse_eq_ok_iff.mp ok
  exact isDenoted_of_ofErased read

theorem IsDenoted.isBinaryName_of_named {t : TypeRef} (denoted : t.IsDenoted) {name : String}
    (h : t = .named name) : isBinaryName name.toList := by
  cases denoted with
  | @primitive n p => cases n <;> cases h
  | @named n name' binary =>
    cases n with
    | zero =>
      obtain rfl : name' = name := by simpa [arrayOf] using h
      exact binary
    | succ => cases h

theorem isBinaryName_of_parse {text name : String} (ok : parse text = .ok (.named name)) :
    isBinaryName name.toList :=
  (isDenoted_of_parse ok).isBinaryName_of_named rfl

theorem isBinaryName_keyword (p : Primitive) : isBinaryName p.keyword.toList := by
  cases p <;> decide

theorem erase_append_brackets {base : List Char} (binary : isBinaryName base) (n : Nat) :
    erase (base ++ brackets n) = .ok (base ++ brackets n) := by
  have plain_brackets : ∀ c ∈ brackets n, c = '[' ∨ c = ']' := by
    induction n with
    | zero => simp [brackets]
    | succ n ih =>
      intro c hc
      rcases List.mem_append.mp hc with hc | hc
      · exact ih c hc
      · simpa using hc
  refine erase_eq_self fun c hc => ?_
  rcases List.mem_append.mp hc with hc | hc
  · have inName := isNameChar_of_mem binary hc
    refine ⟨?_, ?_, not_isBlank_of_isNameChar inName⟩
    all_goals
      rintro rfl
      exact absurd inName (by decide)
  · rcases plain_brackets c hc with rfl | rfl <;> decide

theorem IsDenoted.parse_binaryName {t : TypeRef} (denoted : t.IsDenoted) :
    parse t.binaryName = .ok t := by
  cases denoted with
  | @primitive n p noVoid =>
    have allowed : ¬ (0 < n ∧ p = .void) := by
      rintro ⟨positive, rfl⟩
      simp at noVoid
      omega
    have erased := erase_append_brackets (isBinaryName_keyword p) n
    have dimensions := splitDimensions_append_brackets (isBinaryName_keyword p) n
    simp only [parse, toList_binaryName_arrayOf, binaryName, erased, Except.bind, ofErased,
      dimensions, String.ofList_toList, Primitive.ofKeyword?_keyword, if_neg allowed]
  | @named n name binary noKeyword =>
    have erased := erase_append_brackets binary n
    have dimensions := splitDimensions_append_brackets binary n
    simp only [parse, toList_binaryName_arrayOf, binaryName, erased, Except.bind, ofErased,
      dimensions, String.ofList_toList, noKeyword, if_pos binary]

end TypeRef
end JavaStubs
