import JavaStubs.Types.Modifiers

/-!
# Sets of modifiers and their keywords

A set that a list of keywords spells is determined by its members: neither their order nor how often
they are repeated leaves a trace, so the keywords of the set spell it again. What is left of such a
set when modifiers are taken away is spelled by keywords as well.
-/

namespace JavaStubs
namespace Modifiers

theorem has_foldl_insert (ms : List Modifier) (s : Modifiers) (m : Modifier) :
    (ms.foldl insert s).has m ↔ s.has m ∨ m ∈ ms := by
  induction ms generalizing s with
  | nil => simp
  | cons k rest ih => simp [ih, has_insert, or_assoc, eq_comm (a := m)]

theorem has_ofList (ms : List Modifier) (m : Modifier) : (ofList ms).has m ↔ m ∈ ms := by
  simp [ofList, has_foldl_insert, has_none]

theorem getLsbD_foldl_insert (ms : List Modifier) (s : Modifiers) (i : Nat) :
    (ms.foldl insert s).bits.getLsbD i ↔
      s.bits.getLsbD i ∨ ∃ m ∈ ms, m.mask.getLsbD i := by
  induction ms generalizing s with
  | nil => simp
  | cons k rest ih => simp [ih, insert, union, single, or_assoc]

theorem getLsbD_ofList (ms : List Modifier) (i : Nat) :
    (ofList ms).bits.getLsbD i ↔ ∃ m ∈ ms, m.mask.getLsbD i := by
  simp [ofList, getLsbD_foldl_insert, none]

theorem ofList_congr {ms ns : List Modifier} (same : ∀ m, m ∈ ms ↔ m ∈ ns) :
    ofList ms = ofList ns := by
  have bits : (ofList ms).bits = (ofList ns).bits := by
    ext i hi
    rw [← BitVec.getLsbD_eq_getElem, ← BitVec.getLsbD_eq_getElem, Bool.eq_iff_iff, getLsbD_ofList,
      getLsbD_ofList]
    simp [same]
  cases h : ofList ms
  cases h' : ofList ns
  simp_all

/-- Every bit of the set is that of a keyword. -/
def IsNamed (s : Modifiers) : Prop := ofList s.toList = s

theorem mem_toList {s : Modifiers} {m : Modifier} : m ∈ s.toList ↔ s.has m := by
  simp [toList, Modifier.mem_all]

theorem isNamed_ofList (ms : List Modifier) : (ofList ms).IsNamed :=
  ofList_congr fun m => by rw [mem_toList, has_ofList]

theorem isNamed_none : none.IsNamed := isNamed_ofList []

theorem foldl_of_go {words : List String} {acc s : Modifiers}
    (ok : ofKeywords.go acc words = .ok s) :
    ∃ ms : List Modifier, s = ms.foldl insert acc := by
  induction words generalizing acc with
  | nil => exact ⟨[], (Except.ok.inj ok).symm⟩
  | cons word rest ih =>
    rw [ofKeywords.go] at ok
    split at ok
    case h_1 m _ =>
      obtain ⟨ms, rfl⟩ := ih ok
      exact ⟨m :: ms, rfl⟩
    case h_2 => cases ok

theorem isNamed_of_ofKeywords {words : List String} {s : Modifiers}
    (ok : ofKeywords words = .ok s) : s.IsNamed := by
  obtain ⟨ms, rfl⟩ := foldl_of_go ok
  exact isNamed_ofList ms

theorem go_map_keyword (ms : List Modifier) (acc : Modifiers) :
    ofKeywords.go acc (ms.map Modifier.keyword) = .ok (ms.foldl insert acc) := by
  induction ms generalizing acc with
  | nil => rfl
  | cons m rest ih => simp [ofKeywords.go, Modifier.ofKeyword?_keyword, ih]

theorem IsNamed.ofKeywords_keywords {s : Modifiers} (named : s.IsNamed) :
    ofKeywords s.keywords = .ok s :=
  (go_map_keyword s.toList none).trans (congrArg Except.ok named)

theorem eq_of_getLsbD_mask {m n : Modifier} {i : Nat} (hm : m.mask.getLsbD i)
    (hn : n.mask.getLsbD i) : m = n := by
  have both : (m.mask &&& n.mask).getLsbD i := by simp [hm, hn]
  rw [mask_and_mask] at both
  split at both
  case isTrue same => exact same
  case isFalse => simp at both

theorem without_ofList (ms ns : List Modifier) :
    (ofList ms).without (ofList ns) = ofList (ms.filter (· ∉ ns)) := by
  have bits : (ofList ms).bits &&& ~~~(ofList ns).bits = (ofList (ms.filter (· ∉ ns))).bits := by
    ext i hi
    rw [← BitVec.getLsbD_eq_getElem, ← BitVec.getLsbD_eq_getElem, Bool.eq_iff_iff,
      BitVec.getLsbD_and, BitVec.getLsbD_not]
    simp only [hi, decide_true, Bool.true_and, Bool.and_eq_true, Bool.not_eq_true',
      ← Bool.not_eq_true, getLsbD_ofList, List.mem_filter, decide_eq_true_eq]
    constructor
    · rintro ⟨⟨m, hm, bit⟩, free⟩
      exact ⟨m, ⟨hm, fun taken => free ⟨m, taken, bit⟩⟩, bit⟩
    · rintro ⟨m, ⟨hm, left⟩, bit⟩
      refine ⟨⟨m, hm, bit⟩, ?_⟩
      rintro ⟨n, hn, bit'⟩
      exact left (eq_of_getLsbD_mask bit bit' ▸ hn)
  rw [without, bits]

theorem IsNamed.emittable {s : Modifiers} (named : s.IsNamed) : s.emittable.IsNamed := by
  rw [Modifiers.emittable, ← named, nonEmittable, without_ofList]
  exact isNamed_ofList _

theorem exists_bit (m : Modifier) : ∃ i < 16, ∀ s : Modifiers, s.has m ↔ s.bits.getLsbD i := by
  have mask : ∃ i < 16, m.mask = BitVec.twoPow 16 i := by cases m <;> decide
  obtain ⟨i, hi, mask⟩ := mask
  refine ⟨i, hi, fun s => ?_⟩
  rw [has_iff, mask, BitVec.and_twoPow]
  have nonzero : BitVec.twoPow 16 i ≠ 0 := mask ▸ mask_ne_zero m
  split <;> simp_all

theorem has_without {s t : Modifiers} {m : Modifier} :
    (s.without t).has m ↔ s.has m ∧ ¬ t.has m := by
  obtain ⟨i, hi, bit⟩ := exists_bit m
  simp [bit, without, hi]

theorem has_emittable {s : Modifiers} {m : Modifier} :
    s.emittable.has m ↔ s.has m ∧ m ∉ [Modifier.abstract, .transient, .interface] := by
  rw [emittable, has_without, nonEmittable, has_ofList]

theorem keywords_of_isEmpty {s : Modifiers} (empty : s.isEmpty) : s.keywords = [] := by
  obtain ⟨bits⟩ := s
  obtain rfl : bits = 0 := by simpa [isEmpty] using empty
  decide

end Modifiers
end JavaStubs
