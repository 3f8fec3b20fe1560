import JavaStubs.Proofs.Types.Brackets
import JavaStubs.Proofs.Types.TypeNames

/-!
# The grammar of type texts

A type is written as a base, then pairs of brackets, then perhaps an ellipsis, with blanks and
generic arguments anywhere between the characters. The base is a keyword or segments with dots
between them. What a text denotes, and what is wrong with a text that denotes nothing, is said here
without reference to how the text is read, and reading finds exactly that.
-/

namespace JavaStubs
namespace TypeRef

open Text

/-! ## Names -/

/-- A letter, `_` or `$`, and after it letters, digits, `_` and `$`. -/
def IsSegment (segment : List Char) : Prop :=
  ∃ first rest, segment = first :: rest ∧ (isLetter first ∨ first = '_' ∨ first = '$') ∧
    ∀ c ∈ rest, isLetterOrNumber c ∨ c = '_' ∨ c = '$'

/-- One or more segments with dots between them. -/
def IsQualifiedName (name : List Char) : Prop :=
  ∃ segments, segments ≠ [] ∧ (∀ segment ∈ segments, IsSegment segment) ∧
    join ['.'] segments = name

/-- The words for the primitive types. -/
inductive IsKeyword : Primitive → List Char → Prop
  | void : IsKeyword .void "void".toList
  | boolean : IsKeyword .boolean "boolean".toList
  | byte : IsKeyword .byte "byte".toList
  | char : IsKeyword .char "char".toList
  | short : IsKeyword .short "short".toList
  | int : IsKeyword .int "int".toList
  | long : IsKeyword .long "long".toList
  | float : IsKeyword .float "float".toList
  | double : IsKeyword .double "double".toList

/-- What may stand in front of brackets and an ellipsis. -/
def IsBase (base : List Char) : Prop := (∃ p, IsKeyword p base) ∨ IsQualifiedName base

theorem isKeyword_iff {word : List Char} {p : Primitive} :
    IsKeyword p word ↔ word = p.keyword.toList := by
  constructor
  · rintro ⟨⟩ <;> rfl
  · rintro rfl
    cases p <;> constructor

theorem isSegment_iff {segment : List Char} : isSegment segment ↔ IsSegment segment := by
  cases segment with
  | nil => simp [isSegment, IsSegment]
  | cons first rest => simp [isSegment, IsSegment, isNameStart, isNamePart, or_assoc]

theorem isBinaryName_iff {name : List Char} : isBinaryName name ↔ IsQualifiedName name := by
  simp only [isBinaryName, List.all_eq_true]
  constructor
  · intro segments
    exact ⟨split '.' name, split_ne_nil _ _, fun s hs => isSegment_iff.mp (segments s hs),
      join_split '.' name⟩
  · rintro ⟨segments, nonempty, each, rfl⟩ s hs
    have free : ∀ segment ∈ segments, '.' ∉ segment := by
      intro segment mem dot
      have part := isNamePart_of_mem_segment (isSegment_iff.mpr (each segment mem)) dot
      exact absurd part (by decide)
    rw [split_join nonempty free] at hs
    exact isSegment_iff.mpr (each s hs)

theorem IsBase.isBinaryName {base : List Char} (h : IsBase base) : isBinaryName base := by
  rcases h with ⟨p, keyword⟩ | name
  · exact isKeyword_iff.mp keyword ▸ isBinaryName_keyword p
  · exact isBinaryName_iff.mpr name

/-! ## Spellings -/

/-- What marks a variable number of arguments. -/
def ellipsis (isVariadic : Bool) : List Char := if isVariadic then ['.', '.', '.'] else []

/-- The parts of a type that is written without blanks and generic arguments. -/
structure Spelling where
  base : List Char
  pairs : Nat
  isVariadic : Bool

namespace Spelling

def text (w : Spelling) : List Char := w.base ++ brackets w.pairs ++ ellipsis w.isVariadic

/-- The ellipsis is one more dimension. -/
def dimensions (w : Spelling) : Nat := w.pairs + w.isVariadic.toNat

/-- The type that is spelled: a keyword is a primitive type, any other base a name, and there are no
arrays of `void`. -/
inductive Denotes (w : Spelling) : TypeRef → Prop
  | primitive (p : Primitive) (base : IsKeyword p w.base)
      (noArray : p = .void → w.dimensions = 0) :
      Denotes w (arrayOf w.dimensions (.primitive p))
  | named (base : IsQualifiedName w.base) (noKeyword : ∀ p, ¬ IsKeyword p w.base) :
      Denotes w (arrayOf w.dimensions (.named (String.ofList w.base)))

end Spelling

theorem length_brackets (n : Nat) : (brackets n).length = 2 * n := by
  induction n with
  | zero => rfl
  | succ n ih => simp [brackets, ih]; omega

theorem brackets_takeBrackets (s : List Char) :
    (brackets (takeBrackets s).1).reverse ++ (takeBrackets s).2 = s := by
  fun_induction takeBrackets s with
  | case1 rest n left h ih => simpa [brackets, h] using ih
  | case2 => rfl

theorem exists_ellipsis (s : List Char) :
    ∃ v : Bool, (takeEllipsis s).1 = v.toNat ∧ ellipsis v ++ (takeEllipsis s).2 = s := by
  unfold takeEllipsis
  split
  · exact ⟨true, rfl, rfl⟩
  · exact ⟨false, rfl, rfl⟩

/-- Every text has parts: those that are taken off its end, and what is left. -/
theorem exists_spelling (s : List Char) :
    ∃ w : Spelling, w.text = s ∧ splitDimensions s = (w.base, w.dimensions) := by
  obtain ⟨v, count, front⟩ := exists_ellipsis s.reverse
  have back := brackets_takeBrackets (takeEllipsis s.reverse).2
  cases hpairs : takeBrackets (takeEllipsis s.reverse).2 with | mk n left =>
  refine ⟨⟨left.reverse, n, v⟩, ?_, ?_⟩
  · rw [hpairs] at back
    rw [← List.reverse_inj, ← front, ← back]
    cases v <;> simp [Spelling.text, ellipsis]
  · simp only [splitDimensions, hpairs, count, Spelling.dimensions, Nat.add_comm]

namespace Spelling

variable {w w' : Spelling}

theorem splitDimensions_text (h : IsBase w.base) :
    splitDimensions w.text = (w.base, w.dimensions) := by
  obtain ⟨base, n, v⟩ := w
  cases v with
  | false =>
    simpa [text, ellipsis, dimensions] using splitDimensions_append_brackets h.isBinaryName n
  | true =>
    have front := takeBrackets_append_brackets h.isBinaryName n
    have back : (base ++ brackets n ++ ['.', '.', '.']).reverse =
        '.' :: '.' :: '.' :: (base ++ brackets n).reverse := by simp
    simp only [splitDimensions, text, ellipsis, if_pos, back, takeEllipsis, front,
      List.reverse_reverse]
    rw [Nat.add_comm]
    rfl

/-- A text is spelled in one way. -/
theorem eq_of_text (h : IsBase w.base) (h' : IsBase w'.base) (same : w.text = w'.text) :
    w = w' := by
  have parts : (w.base, w.dimensions) = (w'.base, w'.dimensions) := by
    rw [← splitDimensions_text h, same, splitDimensions_text h']
  have lengths := congrArg List.length same
  obtain ⟨base, n, v⟩ := w
  obtain ⟨base', n', v'⟩ := w'
  obtain ⟨rfl, dimensions⟩ := Prod.mk.inj parts
  simp only [Spelling.dimensions, text, List.length_append, length_brackets] at lengths dimensions
  -- A pair of brackets has two characters and the ellipsis three.
  cases v <;> cases v' <;> simp [ellipsis] at lengths dimensions ⊢ <;> omega

end Spelling

/-! ## Reading -/

inductive Reading (s : List Char) : Except Fault TypeRef → Prop
  | denoted (w : Spelling) {t : TypeRef} (text : w.text = s) (denotes : w.Denotes t) :
      Reading s (.ok t)
  | badName (noBase : ∀ w : Spelling, w.text = s → ¬ IsBase w.base) : Reading s (.error .badName)
  | voidArray (w : Spelling) (text : w.text = s) (base : IsKeyword .void w.base)
      (isArray : 0 < w.dimensions) : Reading s (.error .voidArray)

theorem Spelling.Denotes.isBase {w : Spelling} {t : TypeRef} (h : w.Denotes t) : IsBase w.base := by
  cases h with
  | primitive p base => exact .inl ⟨p, base⟩
  | named base => exact .inr base

theorem ofKeyword?_eq_none_iff {base : List Char} :
    Primitive.ofKeyword? (String.ofList base) = none ↔ ∀ p, ¬ IsKeyword p base := by
  simp only [isKeyword_iff]
  constructor
  · rintro none p rfl
    simp [Primitive.ofKeyword?_keyword] at none
  · intro noKeyword
    by_contra found
    obtain ⟨p, found⟩ := Option.ne_none_iff_exists'.mp found
    exact noKeyword p (by rw [Primitive.keyword_of_ofKeyword? found, String.toList_ofList])

theorem reading_ofErased (s : List Char) : Reading s (ofErased s) := by
  obtain ⟨w, text, parts⟩ := exists_spelling s
  unfold ofErased
  simp only [parts]
  cases keyword : Primitive.ofKeyword? (String.ofList w.base) with
  | some p =>
    have base : IsKeyword p w.base := by
      rw [isKeyword_iff, Primitive.keyword_of_ofKeyword? keyword, String.toList_ofList]
    by_cases isArray : 0 < w.dimensions ∧ p = .void
    · simp only [if_pos isArray]
      exact .voidArray w text (isArray.2 ▸ base) isArray.1
    · simp only [if_neg isArray]
      refine .denoted w text (.primitive p base fun void => ?_)
      exact Nat.eq_zero_of_not_pos fun positive => isArray ⟨positive, void⟩
  | none =>
    by_cases binary : isBinaryName w.base
    · simp only [if_pos binary]
      exact .denoted w text (.named (isBinaryName_iff.mp binary) (ofKeyword?_eq_none_iff.mp keyword))
    · simp only [if_neg binary]
      refine .badName fun w' text' isBase => binary ?_
      have parts' := Spelling.splitDimensions_text isBase
      rw [text', parts] at parts'
      obtain ⟨base, -⟩ := Prod.mk.inj parts'
      exact base ▸ isBase.isBinaryName

theorem Spelling.Denotes.ofErased_eq {w : Spelling} {t : TypeRef} (h : w.Denotes t) :
    ofErased w.text = .ok t := by
  simp only [ofErased, splitDimensions_text h.isBase]
  cases h with
  | primitive p base noArray =>
    have allowed : ¬ (0 < w.dimensions ∧ p = .void) := by
      rintro ⟨positive, void⟩
      rw [noArray void] at positive
      cases positive
    simp only [isKeyword_iff.mp base, String.ofList_toList, Primitive.ofKeyword?_keyword,
      if_neg allowed]
  | named base noKeyword =>
    simp only [ofKeyword?_eq_none_iff.mpr noKeyword, if_pos (isBinaryName_iff.mpr base)]

theorem ofErased_eq_iff {s : List Char} {r : Except Fault TypeRef} :
    ofErased s = r ↔ Reading s r := by
  constructor
  · rintro rfl
    exact reading_ofErased s
  intro h
  cases h with
  | denoted w text denotes => rw [← text, denotes.ofErased_eq]
  | badName noBase =>
    have actual := reading_ofErased s
    generalize ofErased s = r at actual
    cases actual with
    | denoted w text denotes => exact absurd denotes.isBase (noBase w text)
    | badName => rfl
    | voidArray w text base => exact absurd (.inl ⟨.void, base⟩) (noBase w text)
  | voidArray w text base isArray =>
    have isBase : IsBase w.base := .inl ⟨.void, base⟩
    simp only [← text, ofErased, Spelling.splitDimensions_text isBase, isKeyword_iff.mp base,
      String.ofList_toList, Primitive.ofKeyword?_keyword, if_pos (And.intro isArray trivial)]

/-- What is wrong with a text that denotes no type. Brackets are looked at first, then the name. -/
inductive HasFault (s : List Char) : Fault → Prop
  | strayClose (stray : HasStrayClose 0 s) : HasFault s .strayClose
  | missingClose (noStray : ¬ HasStrayClose 0 s) (unclosed : ¬ Reaches 0 s 0) :
      HasFault s .missingClose
  | badName (balanced : Balanced 0 s)
      (noBase : ∀ w : Spelling, w.text = outside 0 s → ¬ IsBase w.base) : HasFault s .badName
  | voidArray (balanced : Balanced 0 s) (w : Spelling) (text : w.text = outside 0 s)
      (base : IsKeyword .void w.base) (isArray : 0 < w.dimensions) :
      HasFault s .voidArray

theorem hasFault_iff {s : List Char} {fault : Fault} :
    HasFault s fault ↔ erase s = .error fault ∨
      ∃ e, erase s = .ok e ∧ ofErased e = .error fault := by
  constructor
  · intro h
    cases h with
    | strayClose stray => exact .inl (erase_eq_iff.mpr (.strayClose stray))
    | missingClose noStray unclosed =>
      exact .inl (erase_eq_iff.mpr (.missingClose noStray unclosed))
    | badName balanced noBase =>
      exact .inr ⟨_, erase_eq_ok_iff.mpr ⟨balanced, rfl⟩, ofErased_eq_iff.mpr (.badName noBase)⟩
    | voidArray balanced w text base isArray =>
      exact .inr ⟨_, erase_eq_ok_iff.mpr ⟨balanced, rfl⟩,
        ofErased_eq_iff.mpr (.voidArray w text base isArray)⟩
  · rintro (erased | ⟨e, erased, read⟩)
    · rcases erase_eq_iff.mp erased with stray | ⟨noStray, unclosed⟩ | _
      · exact .strayClose stray
      · exact .missingClose noStray unclosed
    · obtain ⟨balanced, rfl⟩ := erase_eq_ok_iff.mp erased
      rcases ofErased_eq_iff.mp read with _ | noBase | ⟨w, text, base, isArray⟩
      · exact .badName balanced noBase
      · exact .voidArray balanced w text base isArray

/-- The text `s` is read as the grammar says. -/
structure ReadByGrammar (s : String) : Prop where
  accepted : ∀ t, parse s = .ok t ↔
    Balanced 0 s.toList ∧ ∃ w : Spelling, w.text = outside 0 s.toList ∧ w.Denotes t
  unique : ∀ w w' : Spelling, IsBase w.base → IsBase w'.base →
    w.text = outside 0 s.toList → w'.text = outside 0 s.toList → w = w'
  rejected : ∀ m, parse s = .error m ↔ m.input = s ∧ HasFault s.toList m.fault

theorem parse_readByGrammar (s : String) : ReadByGrammar s := by
  constructor
  case accepted =>
    intro t
    rw [parse_eq_ok_iff]
    constructor
    · rintro ⟨e, erased, read⟩
      obtain ⟨balanced, rfl⟩ := erase_eq_ok_iff.mp erased
      rcases ofErased_eq_iff.mp read with ⟨w, text, denotes⟩
      exact ⟨balanced, w, text, denotes⟩
    · rintro ⟨balanced, w, text, denotes⟩
      exact ⟨_, erase_eq_ok_iff.mpr ⟨balanced, rfl⟩, text ▸ denotes.ofErased_eq⟩
  case unique =>
    intro w w' isBase isBase' text text'
    exact Spelling.eq_of_text isBase isBase' (text.trans text'.symm)
  case rejected =>
    intro m
    rw [parse_eq_error_iff, hasFault_iff]

example : parse "in<A>t [] ..." = .ok (.array (.array (.primitive .int))) := by decide +kernel

end TypeRef
end JavaStubs
