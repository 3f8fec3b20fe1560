import JavaStubs.Proofs.Text.EscapeGroups

/-!
# What is accepted as escaped text

A text is accepted exactly if it consists of groups whose four characters, with a zero for a plus
sign in front of them and in upper case, are the digits of the escaped form of what is read. So a
text without a plus sign is accepted exactly if it is the escaped form of a text up to the case of
its digits, and lone or misplaced surrogates are refused, since no text has them.
-/

namespace JavaStubs
namespace Text

variable {e t : String}

/-- The text consists of groups of four digits, which in upper case are the escaped form of `t`. -/
def IsSpelling (e t : String) : Prop :=
  ∃ quads, e.toList = grouped quads ∧ (∀ quad ∈ quads, IsHexQuad quad) ∧
    (escape t).toList = grouped (quads.map fun quad => quad.map Char.toUpper)

/-- The text consists of groups of four digits, where a plus sign may stand for a zero in front, and
in upper case they are the escaped form of `t`. -/
def IsSignedSpelling (e t : String) : Prop :=
  ∃ quads, e.toList = grouped quads ∧ (∀ quad ∈ quads, IsHexQuad (unsigned quad)) ∧
    (escape t).toList = grouped (quads.map spelled)

theorem grouped_map_spelled_iff {quads : List (List Char)} {us : List Nat}
    (digits : ∀ quad ∈ quads, IsHexQuad (unsigned quad)) :
    grouped (us.map hexQuad) = grouped (quads.map spelled) ↔
      us.map hexQuad = quads.map spelled := by
  refine ⟨grouped_injective ?_ ?_, congrArg grouped⟩
  · simp [length_hexQuad]
  · intro quad hquad
    obtain ⟨quad, mem, rfl⟩ := List.mem_map.mp hquad
    rw [spelled, List.length_map]
    exact (digits quad mem).four

theorem unescape?_iff_isSignedSpelling : unescape? e = some t ↔ IsSignedSpelling e t := by
  rw [unescape?_eq_some_iff, unescapeChars?_eq_some_iff, IsSignedSpelling, toList_escape,
    escapeChars_eq_grouped]
  refine exists_congr fun quads => and_congr_right fun _ => ?_
  rw [forall₂_readsAs_iff]
  refine and_congr_right fun digits => ?_
  rw [grouped_map_spelled_iff digits]
  exact and_iff_right fun u hu => Utf16.unit_lt_of_mem_units hu

theorem unsigned_eq_of_noSign {quad : List Char} (noSign : '+' ∉ quad) : unsigned quad = quad := by
  unfold unsigned
  split
  case h_1 => simp at noSign
  case h_2 => rfl

theorem IsSpelling.noSign (spelling : IsSpelling e t) : '+' ∉ e.toList := by
  obtain ⟨quads, groups, digits, _⟩ := spelling
  rw [groups, mem_grouped_iff]
  rintro ⟨quad, hquad, slash | letter | digit⟩
  · exact absurd slash (by decide)
  · exact absurd letter (by decide)
  · exact absurd ((digits quad hquad).digits '+' digit) (by decide)

theorem isSignedSpelling_iff (noSign : '+' ∉ e.toList) :
    IsSignedSpelling e t ↔ IsSpelling e t := by
  refine exists_congr fun quads => and_congr_right fun groups => ?_
  have plain : ∀ quad ∈ quads, unsigned quad = quad := by
    intro quad hquad
    apply unsigned_eq_of_noSign
    intro sign
    rw [groups] at noSign
    exact noSign (mem_grouped_iff.mpr ⟨quad, hquad, .inr (.inr sign)⟩)
  have written : quads.map spelled = quads.map fun quad => quad.map Char.toUpper :=
    List.map_congr_left fun quad hquad => by rw [spelled, plain quad hquad]
  have digits : (∀ quad ∈ quads, IsHexQuad (unsigned quad)) ↔ ∀ quad ∈ quads, IsHexQuad quad :=
    forall₂_congr fun quad hquad => by rw [plain quad hquad]
  rw [written, digits]

/-- What is accepted, and that of it the texts without a plus sign are those that are escaped forms
up to the case of their digits. -/
theorem unescape?_acceptedForms (e t : String) :
    (unescape? e = some t ↔ IsSignedSpelling e t) ∧
      (IsSpelling e t ↔ unescape? e = some t ∧ '+' ∉ e.toList) := by
  refine ⟨unescape?_iff_isSignedSpelling, ?_⟩
  rw [unescape?_iff_isSignedSpelling]
  constructor
  · intro spelling
    exact ⟨(isSignedSpelling_iff spelling.noSign).mpr spelling, spelling.noSign⟩
  · rintro ⟨accepted, noSign⟩
    exact (isSignedSpelling_iff noSign).mp accepted

/-- A group with a sign is accepted, though it is no group of four digits. -/
theorem signed_group_accepted : ¬ ∀ e t, unescape? e = some t → IsSpelling e t := by
  intro claim
  have accepted : unescape? "\\u+041" = some "A" := by decide +kernel
  have sign : '+' ∈ "\\u+041".toList := by decide
  exact (claim _ _ accepted).noSign sign

end Text
end JavaStubs
