import JavaStubs.Text.Pieces
import Mathlib.Data.List.Basic

/-!
# Lines, words and items

Text that was put together from lines, from words with a blank between neighbours, or from items
with a comma and a blank between neighbours is taken apart again, as long as no part has the
character in it at which the text is cut.
-/

namespace JavaStubs
namespace Text

section Pieces

variable {α : Type} [DecidableEq α] {sep : α}

theorem dropLead?_append (lead s : List α) : dropLead? lead (lead ++ s) = some s := by
  induction lead with
  | nil => cases s <;> rfl
  | cons a lead ih => simpa [dropLead?] using ih

/-- What stands before `tail`, if the sequence ends with it. -/
def dropTail? (tail s : List α) : Option (List α) :=
  (dropLead? tail.reverse s.reverse).map List.reverse

theorem dropTail?_append (s tail : List α) : dropTail? tail (s ++ tail) = some s := by
  rw [dropTail?, List.reverse_append, dropLead?_append, Option.map_some, List.reverse_reverse]

theorem cut?_append {before : List α} (free : sep ∉ before) (after : List α) :
    cut? sep (before ++ sep :: after) = some (before, after) := by
  induction before with
  | nil => simp [cut?]
  | cons c rest ih =>
    simp only [List.mem_cons, not_or] at free
    simp [cut?, Ne.symm free.1, ih free.2]

/-- Lines that all have an end are cut off a text one by one. -/
theorem split_lines_append {lines : List (List α)} (free : ∀ line ∈ lines, sep ∉ line)
    (s : List α) :
    split sep ((lines.flatMap fun line => line ++ [sep]) ++ s) = lines ++ split sep s := by
  induction lines with
  | nil => rfl
  | cons line rest ih =>
    have first : split sep line = [line] := split_eq_singleton (free line List.mem_cons_self)
    have later := ih fun l hl => free l (List.mem_cons_of_mem _ hl)
    rw [List.flatMap_cons, List.append_assoc, List.append_assoc, List.singleton_append,
      split_append_sep, first, later]
    rfl

omit [DecidableEq α] in
theorem not_mem_join {mark : α} {sep : List α} {pieces : List (List α)} (other : mark ∉ sep)
    (free : ∀ piece ∈ pieces, mark ∉ piece) : mark ∉ join sep pieces := by
  intro mem
  rcases mem_of_mem_join mem with inSep | ⟨piece, hpiece, mem⟩
  · exact other inSep
  · exact free piece hpiece mem

end Pieces

theorem toList_joinStrings (sep : String) (pieces : List String) :
    (joinStrings sep pieces).toList = join sep.toList (pieces.map String.toList) := by
  induction pieces with
  | nil => rfl
  | cons piece rest ih =>
    cases rest with
    | nil => rfl
    | cons next more =>
      simp only [joinStrings, String.toList_append, List.map_cons, join] at ih ⊢
      rw [ih]

section Words

/-- The words between the blanks and the ends of lines. -/
def words (s : List Char) : List String :=
  ((split ' ' (replace '\n' ' ' s)).filter (· ≠ [])).map String.ofList

theorem words_append_blank (s t : List Char) : words (s ++ ' ' :: t) = words s ++ words t := by
  simp [words, replace, split_append_sep]

theorem words_cons_blank (s : List Char) : words (' ' :: s) = words s :=
  words_append_blank [] s

theorem words_cons_newline (s : List Char) : words ('\n' :: s) = words s := by
  simp [words, replace, split]

theorem words_toList {w : String} (noBlank : ' ' ∉ w.toList) (noNewline : '\n' ∉ w.toList)
    (nonempty : w ≠ "") : words w.toList = [w] := by
  have whole : replace '\n' ' ' w.toList = w.toList := by
    rw [replace, List.map_congr_left fun c hc => if_neg (ne_of_mem_of_not_mem hc noNewline)]
    exact List.map_id _
  simp [words, whole, split_eq_singleton noBlank, nonempty]

theorem words_joinStrings {ws : List String}
    (free : ∀ w ∈ ws, ' ' ∉ w.toList ∧ '\n' ∉ w.toList ∧ w ≠ "") :
    words (joinStrings " " ws).toList = ws := by
  induction ws with
  | nil => rfl
  | cons w rest ih =>
    obtain ⟨noBlank, noNewline, nonempty⟩ := free w List.mem_cons_self
    have first := words_toList noBlank noNewline nonempty
    have later := ih fun v hv => free v (List.mem_cons_of_mem _ hv)
    cases rest with
    | nil => exact first
    | cons next more =>
      have blank : (" " : String).toList = [' '] := rfl
      rw [joinStrings, String.toList_append, String.toList_append, blank, List.append_assoc,
        List.singleton_append, words_append_blank, first, later]
      rfl

end Words

section Items

/-- The items of a text in which each item but the first has a comma and a blank in front. -/
def items (s : List Char) : List (List Char) :=
  if s = [] then [] else (split ',' (' ' :: s)).map List.tail

end Items

end Text
end JavaStubs
