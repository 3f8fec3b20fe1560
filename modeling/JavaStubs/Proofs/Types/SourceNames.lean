import JavaStubs.Proofs.Stub.OutputPaths
import JavaStubs.Proofs.Types.Grammar

/-!
# Type names in source text

Source text writes a dot for every dollar sign of a binary name. The dollar signs of an accepted
name may stand anywhere, also at the front of a segment, at the end of one, next to each other and
before a digit. What is written then is no name of the language. It is one exactly if each dollar
sign stands behind a character that is no dot, and in front of a letter or an underscore.
-/

namespace JavaStubs

namespace Text

section Beginnings

variable {α β : Type} {P : α → Prop} {s : List α}

/-- The sequence begins with an element that has the property `P`. -/
def BeginsWith (P : α → Prop) (s : List α) : Prop := ∃ c, s.head? = some c ∧ P c

theorem beginsWith_cons {c : α} : BeginsWith P (c :: s) ↔ P c := by
  simp [BeginsWith]

theorem not_beginsWith_nil : ¬ BeginsWith P [] := by
  simp [BeginsWith]

theorem beginsWith_map {P : β → Prop} {f : α → β} :
    BeginsWith P (s.map f) ↔ BeginsWith (fun c => P (f c)) s := by
  simp [BeginsWith]

variable [DecidableEq α] {sep : α}

theorem beginsWith_takeWhile (other : ¬ P sep) :
    BeginsWith P (s.takeWhile (· ≠ sep)) ↔ BeginsWith P s := by
  cases s with
  | nil => rfl
  | cons c rest =>
    by_cases hc : c = sep
    · subst hc
      simp [beginsWith_cons, not_beginsWith_nil, other]
    · simp [hc, beginsWith_cons]

theorem split_eq_cons (sep : α) (s : List α) :
    split sep s = s.takeWhile (· ≠ sep) :: (split sep s).tail := by
  induction s with
  | nil => rfl
  | cons c rest ih =>
    by_cases hc : c = sep
    · simp [split, hc]
    · rw [split, if_neg hc, ih]
      simp [hc]

theorem mem_tail_split_iff {piece : List α} :
    piece ∈ (split sep s).tail ↔
      ∃ before after, s = before ++ sep :: after ∧ piece = after.takeWhile (· ≠ sep) := by
  induction s with
  | nil => simp [split]
  | cons c rest ih =>
    have shift : (∃ before after, c :: rest = before ++ sep :: after ∧
        piece = after.takeWhile (· ≠ sep)) ↔
        (c = sep ∧ piece = rest.takeWhile (· ≠ sep)) ∨ piece ∈ (split sep rest).tail := by
      rw [ih]
      constructor
      · rintro ⟨_ | ⟨_, before⟩, after, same, rfl⟩
        · obtain ⟨rfl, rfl⟩ := List.cons.inj same
          exact .inl ⟨rfl, rfl⟩
        · obtain ⟨rfl, rfl⟩ := List.cons.inj same
          exact .inr ⟨before, after, rfl, rfl⟩
      · rintro (⟨rfl, rfl⟩ | ⟨before, after, rfl, rfl⟩)
        · exact ⟨[], rest, rfl, rfl⟩
        · exact ⟨c :: before, after, rfl, rfl⟩
    rw [shift]
    by_cases hc : c = sep
    · rw [hc, split_cons_self, List.tail_cons, split_eq_cons, List.mem_cons]
      simp
    · rw [split, if_neg hc, split_eq_cons sep rest]
      simp [hc]

/-- All pieces begin with an element of `P` exactly if the sequence does and what follows each
separator does. -/
theorem forall_beginsWith_split_iff (other : ¬ P sep) :
    (∀ piece ∈ split sep s, BeginsWith P piece) ↔
      BeginsWith P s ∧ ∀ before after, s = before ++ sep :: after → BeginsWith P after := by
  rw [split_eq_cons, List.forall_mem_cons, beginsWith_takeWhile other]
  refine and_congr_right fun _ => ?_
  simp only [mem_tail_split_iff]
  constructor
  · intro each before after same
    exact (beginsWith_takeWhile other).mp (each _ ⟨before, after, same, rfl⟩)
  · rintro each _ ⟨before, after, same, rfl⟩
    exact (beginsWith_takeWhile other).mpr (each before after same)

end Beginnings

end Text

namespace TypeRef

open Text

/-- A type as source text may write it: a keyword, or segments with dots between them, and then
brackets. -/
def IsSourceType (text : List Char) : Prop :=
  ∃ base n, IsBase base ∧ text = base ++ brackets n

def IsOpening (c : Char) : Prop := isLetter c ∨ c = '_'

/-- Each dollar sign stands behind a character that is no dot, and in front of a letter or an
underscore. -/
def DollarsSeparate (name : List Char) : Prop :=
  ∀ before after, name = before ++ '$' :: after →
    (∃ c, before.getLast? = some c ∧ c ≠ '.') ∧ BeginsWith IsOpening after

section Names

variable {name : List Char}

theorem isOpening_iff {c : Char} : IsOpening c ↔ isNameStart c ∧ c ≠ '$' := by
  have noLetter : ¬ isLetter '$' := by decide
  simp only [IsOpening, isNameStart, Bool.or_eq_true, decide_eq_true_eq]
  constructor
  · rintro (letter | rfl)
    · exact ⟨.inl (.inl letter), fun dollar => noLetter (dollar ▸ letter)⟩
    · exact ⟨.inl (.inr rfl), by decide⟩
  · rintro ⟨start | dollar, other⟩
    · exact start
    · exact absurd dollar other

theorem not_isOpening_dot : ¬ IsOpening '.' := by
  rintro (letter | other)
  · exact absurd letter (by decide)
  · exact absurd other (by decide)

/-- A dot in place of a dollar sign begins no segment, as the dollar sign does not. -/
theorem isOpening_replaced {c : Char} : IsOpening (if c = '$' then '.' else c) ↔ IsOpening c := by
  split
  case isTrue dollar =>
    subst dollar
    exact iff_of_false not_isOpening_dot fun h => (isOpening_iff.mp h).2 rfl
  case isFalse => rfl

theorem isBinaryName_iff_beginsWith (parts : ∀ c ∈ name, isNameChar c) :
    isBinaryName name ↔ ∀ piece ∈ split '.' name, BeginsWith (fun c => isNameStart c) piece := by
  simp only [isBinaryName, List.all_eq_true]
  refine forall₂_congr fun piece hpiece => ?_
  have noDot := not_mem_of_mem_split hpiece
  cases piece with
  | nil => simp [isSegment, not_beginsWith_nil]
  | cons first rest =>
    have restParts : rest.all isNamePart := by
      rw [List.all_eq_true]
      intro c hc
      have inName := parts c (mem_of_mem_split hpiece (List.mem_cons_of_mem _ hc))
      refine (isNameChar_iff.mp inName).resolve_right ?_
      rintro rfl
      exact noDot (List.mem_cons_of_mem _ hc)
    simp [isSegment, beginsWith_cons, restParts]

theorem isNameChar_of_mem_replace (parts : ∀ c ∈ name, isNameChar c) :
    ∀ c ∈ replace '$' '.' name, isNameChar c := by
  intro c hc
  obtain ⟨d, hd, rfl⟩ := List.mem_map.mp hc
  split
  · decide
  · exact parts d hd

theorem dollar_not_mem_replace : '$' ∉ replace '$' '.' name := by
  intro mem
  obtain ⟨c, _, same⟩ := List.mem_map.mp mem
  split at same
  · exact absurd same (by decide)
  · contradiction

/-- With dots for its dollar signs, a name is a binary name exactly if it begins with a letter or an
underscore, and so does what follows each dot and each dollar sign. -/
theorem isBinaryName_replace_iff (parts : ∀ c ∈ name, isNameChar c) :
    isBinaryName (replace '$' '.' name) ↔
      BeginsWith IsOpening name ∧ ∀ before d after, name = before ++ d :: after →
        d = '.' ∨ d = '$' → BeginsWith IsOpening after := by
  have opening : isBinaryName (replace '$' '.' name) ↔
      ∀ piece ∈ split '.' (replace '$' '.' name), BeginsWith IsOpening piece := by
    rw [isBinaryName_iff_beginsWith (isNameChar_of_mem_replace parts)]
    refine forall₂_congr fun piece hpiece => exists_congr fun c => and_congr_right fun first => ?_
    have noDollar : c ≠ '$' := by
      rintro rfl
      exact dollar_not_mem_replace (mem_of_mem_split hpiece (List.mem_of_head? first))
    rw [isOpening_iff, and_iff_left noDollar]
  rw [opening, forall_beginsWith_split_iff not_isOpening_dot, replace, beginsWith_map]
  simp only [isOpening_replaced]
  refine and_congr_right fun _ => ?_
  constructor
  · rintro each before d after rfl separates
    have replaced : (if d = '$' then '.' else d) = '.' := by
      rcases separates with rfl | rfl <;> rfl
    have later :=
      each (before.map _) (after.map _) (by rw [List.map_append, List.map_cons, replaced])
    simpa only [beginsWith_map, isOpening_replaced] using later
  · intro each before after same
    obtain ⟨before', rest, rfl, rfl, cut⟩ := List.map_eq_append_iff.mp same
    obtain ⟨d, after', rfl, replaced, rfl⟩ := List.map_eq_cons_iff.mp cut
    have separates : d = '.' ∨ d = '$' := by
      split at replaced
      · exact .inr ‹_›
      · exact .inl replaced
    simpa only [beginsWith_map, isOpening_replaced] using each before' d after' rfl separates

theorem not_beginsWith_dollar {s : List Char} : ¬ BeginsWith IsOpening ('$' :: s) := by
  rw [beginsWith_cons, isOpening_iff]
  exact fun h => h.2 rfl

/-- What may begin a segment of a binary name may begin one in the source, unless it is a dollar
sign, and a dollar sign that separates names stands at no beginning. -/
theorem DollarsSeparate.beginsWith_isOpening {before after : List Char}
    (separate : DollarsSeparate (before ++ after))
    (begins : BeginsWith (fun c => isNameStart c) after)
    (front : before.getLast? = none ∨ before.getLast? = some '.') :
    BeginsWith IsOpening after := by
  obtain ⟨c, first, starts⟩ := begins
  refine ⟨c, first, isOpening_iff.mpr ⟨starts, ?_⟩⟩
  rintro rfl
  obtain ⟨rest, rfl⟩ := List.head?_eq_some_iff.mp first
  obtain ⟨⟨c, last, other⟩, _⟩ := separate before rest rfl
  rcases front with none | dot
  · simp [none] at last
  · exact other (Option.some.inj (last.symm.trans dot))

theorem dollarsSeparate_iff (binary : isBinaryName name) :
    isBinaryName (replace '$' '.' name) ↔ DollarsSeparate name := by
  have parts : ∀ c ∈ name, isNameChar c := fun c hc => isNameChar_of_mem binary hc
  have noDot : ¬ isNameStart '.' := by decide
  rw [isBinaryName_iff_beginsWith parts,
    forall_beginsWith_split_iff (P := fun c => isNameStart c) noDot] at binary
  obtain ⟨start, afterDot⟩ := binary
  rw [isBinaryName_replace_iff parts]
  constructor
  · rintro ⟨opens, each⟩ before after rfl
    refine ⟨?_, each before '$' after rfl (.inr rfl)⟩
    -- Behind nothing and behind a dot, the dollar sign would be where a segment begins.
    rcases List.eq_nil_or_concat' before with rfl | ⟨front, c, rfl⟩
    · exact absurd opens not_beginsWith_dollar
    · refine ⟨c, List.getLast?_concat, ?_⟩
      rintro rfl
      rw [List.append_assoc] at each
      exact not_beginsWith_dollar (each front '.' ('$' :: after) rfl (.inl rfl))
  · intro separate
    constructor
    · have behindNothing : DollarsSeparate ([] ++ name) := separate
      exact behindNothing.beginsWith_isOpening start (.inl rfl)
    · rintro before d after rfl (rfl | rfl)
      · have behindDot : DollarsSeparate (before ++ ['.'] ++ after) := by simpa using separate
        exact behindDot.beginsWith_isOpening (afterDot before after rfl)
          (.inr List.getLast?_concat)
      · exact (separate before after rfl).2

end Names

section Brackets

theorem takeWhile_append_brackets {base : List Char} (free : '[' ∉ base) (n : Nat) :
    (base ++ brackets n).takeWhile (· ≠ '[') = base := by
  have front : (brackets n).takeWhile (· ≠ '[') = [] := by
    induction n with
    | zero => rfl
    | succ n ih =>
      cases h : brackets n with
      | nil => simp [brackets, h]
      | cons c rest =>
        rw [h] at ih
        simpa [brackets, h, List.takeWhile_cons] using ih
  have plain : ∀ c ∈ base, (c ≠ '[' : Bool) := by
    intro c hc
    rw [decide_eq_true_eq]
    rintro rfl
    exact free hc
  rw [List.takeWhile_append_of_pos plain, front, List.append_nil]

theorem bracket_not_mem {name : List Char} (parts : ∀ c ∈ name, isNameChar c) : '[' ∉ name :=
  fun mem => absurd (parts _ mem) (by decide)

theorem isSourceType_append_brackets_iff {name : List Char} (parts : ∀ c ∈ name, isNameChar c)
    (n : Nat) : IsSourceType (name ++ brackets n) ↔ isBinaryName name := by
  constructor
  · rintro ⟨base, m, isBase, same⟩
    have binary := isBase.isBinaryName
    have free : '[' ∉ base := bracket_not_mem fun c hc => isNameChar_of_mem binary hc
    rw [← takeWhile_append_brackets (bracket_not_mem parts) n, same,
      takeWhile_append_brackets free]
    exact binary
  · intro binary
    exact ⟨name, n, .inr (isBinaryName_iff.mp binary), rfl⟩

theorem toList_sourceName_arrayOf (n : Nat) (t : TypeRef) :
    (arrayOf n t).sourceName.toList = t.sourceName.toList ++ brackets n := by
  induction n with
  | zero => simp [arrayOf, brackets]
  | succ n ih => simp [arrayOf, sourceName, brackets, ih]

theorem toList_dotted (name : String) : (dotted name).toList = replace '$' '.' name.toList :=
  String.toList_ofList

theorem isSourceType_dotted_iff {name : String} (binary : isBinaryName name.toList) (n : Nat) :
    IsSourceType ((dotted name).toList ++ brackets n) ↔ DollarsSeparate name.toList := by
  have parts : ∀ c ∈ name.toList, isNameChar c := fun c hc => isNameChar_of_mem binary hc
  rw [toList_dotted, isSourceType_append_brackets_iff (isNameChar_of_mem_replace parts),
    dollarsSeparate_iff binary]

end Brackets

theorem IsDenoted.isSourceType_iff {t : TypeRef} (denoted : t.IsDenoted) :
    IsSourceType t.sourceName.toList ↔
      ∀ name, t.innermost = .named name → DollarsSeparate name.toList := by
  cases denoted with
  | @primitive n p =>
    rw [toList_sourceName_arrayOf, innermost_arrayOf]
    refine iff_of_true ⟨_, n, .inl ⟨p, isKeyword_iff.mpr rfl⟩, rfl⟩ ?_
    rintro name ⟨⟩
  | @named n name binary =>
    rw [toList_sourceName_arrayOf, innermost_arrayOf, sourceName, isSourceType_dotted_iff binary]
    simp [innermost]

/-- Where a type or the supertype of a generated class is written, a type of the language is written
exactly if the dollar signs of its name separate names. -/
theorem isSourceType_iff_dollarsSeparate (s : Store) :
    (∀ text t, parse text = .ok t →
      (IsSourceType t.sourceName.toList ↔
        ∀ name, t.innermost = .named name → DollarsSeparate name.toList)) ∧
    ∀ text p, s.planFor text = .ok p →
      (IsSourceType (dotted p.target.localName).toList ↔
        DollarsSeparate p.target.localName.toList) := by
  constructor
  · intro text t read
    exact (isDenoted_of_parse read).isSourceType_iff
  · intro text p planned
    obtain ⟨resolved, accepted, _⟩ := Store.planFor_eq_ok planned
    have declared := Target.declared_of_rejection?_eq_none accepted
    have binary := Store.isBinaryName_of_resolve resolved declared
    have segment : p.target.localName.toList ∈ split '.' p.target.name.toList := by
      rw [Target.split_name declared]
      exact List.mem_append_right _ List.mem_cons_self
    have inside : isBinaryName p.target.localName.toList := by
      rw [isBinaryName, split_eq_singleton (not_mem_of_mem_split segment)]
      simpa using List.all_eq_true.mp binary _ segment
    simpa [brackets] using isSourceType_dotted_iff inside 0

theorem lid_isSourceType :
    parse "a.b.Box$Lid[]" = .ok (.array (.named "a.b.Box$Lid")) ∧
    (IsSourceType (TypeRef.array (.named "a.b.Box$Lid")).sourceName.toList ↔
      ∀ name, (TypeRef.array (.named "a.b.Box$Lid")).innermost = .named name →
        DollarsSeparate name.toList) ∧
    Plan.lidStore.planFor "a.b.Box$Lid" = .ok Plan.lidPlan ∧
    (IsSourceType (dotted Plan.lidPlan.target.localName).toList ↔
      DollarsSeparate Plan.lidPlan.target.localName.toList) := by
  have read : parse "a.b.Box$Lid[]" = .ok (.array (.named "a.b.Box$Lid")) := by decide +kernel
  exact ⟨read, (isSourceType_iff_dollarsSeparate Plan.lidStore).1 _ _ read, Plan.planFor_lidStore,
    (isSourceType_iff_dollarsSeparate Plan.lidStore).2 _ _ Plan.planFor_lidStore⟩

/-- A dollar sign at the front of a segment leaves an empty segment behind. -/
theorem leading_dollar_lost :
    ¬ ∀ text t, parse text = .ok t → ∃ base n, t.sourceName.toList = base ++ brackets n ∧
      ((∃ p, IsKeyword p base) ∨
        ∀ segment ∈ split '.' base, BeginsWith (fun c => isNameStart c) segment) := by
  intro claim
  have read : parse "a.$b" = .ok (.named "a.$b") := by decide +kernel
  obtain ⟨base, n, written, legal⟩ := claim _ _ read
  have text : (TypeRef.named "a.$b").sourceName.toList = ['a', '.', '.', 'b'] := by decide +kernel
  rw [text] at written
  have alone : base = ['a', '.', '.', 'b'] := by
    cases n with
    | zero => simpa [brackets] using written.symm
    | succ n =>
      have last := congrArg List.getLast? written
      simp [brackets] at last
  subst alone
  rcases legal with ⟨p, keyword⟩ | segments
  · rw [isKeyword_iff] at keyword
    revert keyword
    cases p <;> decide
  · exact not_beginsWith_nil (segments [] (by decide))

end TypeRef
end JavaStubs
