import JavaStubs.Proofs.Outcome
import JavaStubs.Proofs.Stub.SourceReading
import JavaStubs.Proofs.Types.Keywords
import JavaStubs.Proofs.Types.TypeNames

/-!
# Reading one block

The text of a block is cut only at its marks: names, keywords and the texts of types have no mark in
them. So the words in front of the parameters, the parameters, the exceptions and the arguments of a
constructor are read as they were written, and so is the statement of a stub.
-/

namespace JavaStubs

open Text

namespace Source

/-- The characters at which source text is cut. -/
def marks : List Char := [' ', '\n', ',', '(', ')']

/-- The text is nowhere cut. -/
def IsWord (w : String) : Prop := ∀ c ∈ marks, c ∉ w.toList

instance (w : String) : Decidable (IsWord w) :=
  List.decidableBAll (fun c => c ∉ w.toList) marks

section Words

variable {w : String}

theorem IsWord.append {v : String} (hv : IsWord v) (hw : IsWord w) : IsWord (v ++ w) := by
  intro c hc
  rw [String.toList_append, List.mem_append, not_or]
  exact ⟨hv c hc, hw c hc⟩

theorem isWord_of_isNameChar (h : ∀ c ∈ w.toList, TypeRef.isNameChar c) : IsWord w := by
  have noMark : marks.all fun c => !TypeRef.isNameChar c := by decide
  intro c hc mem
  have outside := List.all_eq_true.mp noMark c hc
  simp [h c mem] at outside

theorem isWord_of_mem_keywords {m : Modifiers} : ∀ w ∈ m.keywords, IsWord w := by
  intro w hw
  obtain ⟨k, _, rfl⟩ := List.mem_map.mp hw
  cases k <;> decide

theorem isWord_dotted {name : String} (h : ∀ c ∈ name.toList, TypeRef.isNameChar c) :
    IsWord (TypeRef.dotted name) := by
  apply isWord_of_isNameChar
  intro c hc
  simp only [TypeRef.dotted, String.toList_ofList, replace, List.mem_map] at hc
  obtain ⟨d, hd, rfl⟩ := hc
  split
  · decide
  · exact h d hd

end Words

section Heads

def Parameter.text (q : Parameter) : List Char := q.type.toList ++ ' ' :: q.name.toList

def Head.text (h : Head) : List Char :=
  join [' '] (h.words.map String.toList) ++ '(' ::
    (join [',', ' '] (h.params.map Parameter.text) ++ ')' :: h.tail)

end Heads

section Blocks

end Blocks

end Source
end JavaStubs
