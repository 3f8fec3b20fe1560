import JavaStubs.Text.Unicode
import Mathlib.Data.List.Basic

/-!
# Code units spell one text

No character has the code of a surrogate, so the units of a text are taken apart in one way only:
reading the units of a text gives the text back, and units that can be read are the units of what is
read.
-/

namespace JavaStubs
namespace Text
namespace Utf16

section Characters

variable {u v : Nat} {c : Char}

theorem toNat_ofNat_of_valid (valid : u.isValidChar) : (Char.ofNat u).toNat = u := by
  rw [Char.ofNat, dif_pos valid]
  rfl

theorem isSurrogate_iff : isSurrogate u ↔ 0xD800 ≤ u ∧ u < 0xE000 := by
  simp [isSurrogate]

theorem isLowSurrogate_iff : isLowSurrogate u ↔ 0xDC00 ≤ u ∧ u < 0xE000 := by
  simp [isLowSurrogate]

theorem unitsOfChar_ofNat (unit : u < 0x10000) (single : ¬ isSurrogate u) :
    unitsOfChar (Char.ofNat u) = [u] := by
  rw [isSurrogate_iff] at single
  have code : (Char.ofNat u).toNat = u :=
    toNat_ofNat_of_valid (by unfold Nat.isValidChar; omega)
  rw [unitsOfChar, code, if_pos unit]

theorem unitsOfChar_pairChar (high : isSurrogate u) (notLow : ¬ isLowSurrogate u)
    (low : isLowSurrogate v) : unitsOfChar (pairChar u v) = [u, v] := by
  rw [isSurrogate_iff] at high
  rw [isLowSurrogate_iff] at notLow low
  have code : (pairChar u v).toNat = 0x10000 + (u - 0xD800) * 0x400 + (v - 0xDC00) :=
    toNat_ofNat_of_valid (by unfold Nat.isValidChar; omega)
  have beyond : ¬ 0x10000 + (u - 0xD800) * 0x400 + (v - 0xDC00) < 0x10000 := by omega
  have first : 0xD800 + (0x10000 + (u - 0xD800) * 0x400 + (v - 0xDC00) - 0x10000) / 0x400 = u := by
    omega
  have second : 0xDC00 + (0x10000 + (u - 0xD800) * 0x400 + (v - 0xDC00) - 0x10000) % 0x400 = v := by
    omega
  rw [unitsOfChar, code, if_neg beyond, first, second]

theorem unit_lt_of_mem_unitsOfChar (h : u ∈ unitsOfChar c) : u < 0x10000 := by
  have code : c.toNat < 0x110000 := by
    have valid : c.toNat.isValidChar := c.valid
    unfold Nat.isValidChar at valid
    omega
  unfold unitsOfChar at h
  split at h
  case isTrue basic => simpa [List.mem_singleton.mp h] using basic
  case isFalse =>
    simp only [List.mem_cons, List.not_mem_nil, or_false] at h
    omega

theorem decode?_unitsOfChar_append (c : Char) (us : List Nat) :
    decode? (unitsOfChar c ++ us) = (decode? us).map (c :: ·) := by
  have valid : c.toNat.isValidChar := c.valid
  unfold Nat.isValidChar at valid
  unfold unitsOfChar
  split
  case isTrue basic =>
    have single : isSurrogate c.toNat = false := by
      rw [← Bool.not_eq_true, isSurrogate_iff]
      omega
    rw [List.singleton_append, decode?.eq_def]
    simp [single]
  case isFalse beyond =>
    have high : isSurrogate (0xD800 + (c.toNat - 0x10000) / 0x400) = true := by
      rw [isSurrogate_iff]
      omega
    have notLow : isLowSurrogate (0xD800 + (c.toNat - 0x10000) / 0x400) = false := by
      rw [← Bool.not_eq_true, isLowSurrogate_iff]
      omega
    have low : isLowSurrogate (0xDC00 + (c.toNat - 0x10000) % 0x400) = true := by
      rw [isLowSurrogate_iff]
      omega
    have pair : pairChar (0xD800 + (c.toNat - 0x10000) / 0x400)
        (0xDC00 + (c.toNat - 0x10000) % 0x400) = c := by
      have code : 0x10000 + (0xD800 + (c.toNat - 0x10000) / 0x400 - 0xD800) * 0x400 +
          (0xDC00 + (c.toNat - 0x10000) % 0x400 - 0xDC00) = c.toNat := by omega
      rw [pairChar, code, Char.ofNat_toNat]
    simp [decode?, high, notLow, low, pair]

end Characters

theorem unit_lt_of_mem_units {s : List Char} {u : Nat} (h : u ∈ units s) : u < 0x10000 := by
  obtain ⟨c, _, hu⟩ := List.mem_flatMap.mp h
  exact unit_lt_of_mem_unitsOfChar hu

theorem units_cons (c : Char) (s : List Char) : units (c :: s) = unitsOfChar c ++ units s :=
  List.flatMap_cons

theorem decode?_units (s : List Char) : decode? (units s) = some s := by
  induction s with
  | nil => rfl
  | cons c rest ih =>
    rw [units_cons, decode?_unitsOfChar_append, ih, Option.map_some]

theorem units_of_decode? {us : List Nat} {s : List Char} (bounded : ∀ u ∈ us, u < 0x10000)
    (read : decode? us = some s) : units s = us := by
  fun_induction decode? us generalizing s with
  | case1 =>
    obtain rfl := Option.some.inj read
    rfl
  | case2 u rest single ih =>
    obtain ⟨t, later, rfl⟩ := Option.map_eq_some_iff.mp read
    have front := unitsOfChar_ofNat (bounded u List.mem_cons_self) (by simpa using single)
    have back := ih (fun v hv => bounded v (List.mem_cons_of_mem _ hv)) later
    rw [units_cons, front, back, List.singleton_append]
  | case5 u high notLow v rest low ih =>
    obtain ⟨t, later, rfl⟩ := Option.map_eq_some_iff.mp read
    have front := unitsOfChar_pairChar (by simpa using high) notLow low
    have back := ih (fun w hw => bounded w (List.mem_cons_of_mem _ (List.mem_cons_of_mem _ hw))) later
    rw [units_cons, front, back]
    rfl
  | case3 | case4 | case6 => cases read

/-- Sixteen-bit units spell a text exactly if they are its units. -/
theorem decode?_eq_some_iff {us : List Nat} {s : List Char} (bounded : ∀ u ∈ us, u < 0x10000) :
    decode? us = some s ↔ units s = us :=
  ⟨units_of_decode? bounded, fun same => same ▸ decode?_units s⟩

end Utf16
end Text
end JavaStubs
