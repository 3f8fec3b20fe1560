import JavaStubs.Proofs.Catalog.OfCatalogs
import JavaStubs.Proofs.Path.Components
import JavaStubs.Proofs.Types.TypeNames
import JavaStubs.Stub.Plan

/-!
# Paths of a plan

The name of a target that can be planned is a binary name, so each name that its plan adds to a root
is one further component. The source and the class file lie below every root, and the class file is
the source with another extension.
-/

namespace JavaStubs

open Text JavaStubs.Path

namespace TypeRef

/-- The pieces of a binary name are names, and plain ones. -/
theorem plain_of_mem_split {name segment : List Char} (binary : isBinaryName name)
    (h : segment ∈ split '.' name) : segment ≠ [] ∧ '/' ∉ segment ∧ '.' ∉ segment := by
  simp only [isBinaryName, List.all_eq_true] at binary
  have isSegment := binary segment h
  refine ⟨?_, ?_, not_mem_of_mem_split h⟩
  · rintro rfl
    cases isSegment
  · intro hc
    exact absurd (isNamePart_of_mem_segment isSegment hc) (by decide)

end TypeRef

namespace Store

variable {s : Store}

theorem isBinaryName_of_resolve {name : String} {t : Target} (resolved : s.resolve name = .ok t)
    (declared : t.shape = .classType ∨ t.shape = .interfaceType) :
    TypeRef.isBinaryName t.name.toList := by
  obtain ⟨d, parsed, _, rfl⟩ := resolve_declared_iff.mp ⟨resolved, declared⟩
  exact TypeRef.isBinaryName_of_parse parsed

theorem planFor_eq_ok {name : String} {p : Plan} (planned : s.planFor name = .ok p) :
    s.resolve name = .ok p.target ∧ p.target.rejection? = none ∧
      p.generatedName = p.target.simpleName ++ generatedSuffix := by
  obtain ⟨t, resolved, planned⟩ := Outcome.bind_eq_ok_iff.mp planned
  obtain ⟨surface, collected, planned⟩ := Outcome.bind_eq_ok_iff.mp planned
  obtain ⟨constructors, _, planned⟩ := Outcome.bind_eq_ok_iff.mp planned
  obtain rfl := Except.ok.inj planned
  obtain ⟨_, valid, _⟩ := Outcome.bind_eq_ok_iff.mp collected
  refine ⟨resolved, ?_, rfl⟩
  unfold Target.validate at valid
  split at valid
  case h_1 => cases valid
  case h_2 accepted => exact accepted

end Store

theorem Target.declared_of_rejection?_eq_none {t : Target} (accepted : t.rejection? = none) :
    t.shape = .classType ∨ t.shape = .interfaceType := by
  unfold rejection? at accepted
  cases hshape : t.shape with
  | primitive => simp [hshape] at accepted
  | array => simp [hshape] at accepted
  | classType => exact .inl rfl
  | interfaceType => exact .inr rfl

theorem Target.mem_name_of_mem_packageSegments {t : Target} {segment : List Char}
    (h : segment ∈ t.packageSegments) : segment ∈ split '.' t.name.toList := by
  unfold packageSegments at h
  split at h
  · cases h
  · cases h
  · exact List.dropLast_subset _ h
  · exact List.dropLast_subset _ h

section Names

theorem char_mem_ofChars_iff {c : Char} {s : List Char} : Glyph.char c ∈ OsText.ofChars s ↔ c ∈ s := by
  simp [OsText.ofChars]

theorem lastPiece_mem_split (sep : Char) (s : List Char) : lastPiece sep s ∈ split sep s := by
  unfold lastPiece
  rw [List.getLastD_eq_getLast?]
  cases h : (split sep s).getLast? with
  | none => exact absurd (List.getLast?_eq_none_iff.mp h) (split_ne_nil sep s)
  | some piece => exact List.mem_of_getLast? h

theorem Target.mem_simpleName {t : Target} {c : Char} (h : c ∈ t.simpleName.toList) :
    ∃ segment ∈ split '.' t.name.toList, c ∈ segment := by
  rw [simpleName, String.toList_ofList] at h
  exact ⟨_, lastPiece_mem_split '.' _, mem_of_mem_split (lastPiece_mem_split '$' _) h⟩

end Names

namespace Plan

variable {p : Plan} {root : Path}

/-- Each segment of the package is one name, and so is the name of the class, which has no dot. -/
structure PlainNames (p : Plan) : Prop where
  segments : ∀ segment ∈ p.target.packageSegments, IsName (OsText.ofChars segment)
  noSlash : slash ∉ OsText.ofString p.generatedName
  noDot : dot ∉ OsText.ofString p.generatedName
  nonempty : OsText.ofString p.generatedName ≠ []

theorem plainNames_of_planFor {s : Store} {name : String} (planned : s.planFor name = .ok p) :
    p.PlainNames := by
  obtain ⟨resolved, accepted, generated⟩ := Store.planFor_eq_ok planned
  have binary := Store.isBinaryName_of_resolve resolved
    (Target.declared_of_rejection?_eq_none accepted)
  have absent : ∀ c ∈ p.generatedName.toList, c ≠ '/' ∧ c ≠ '.' := by
    intro c hc
    rw [generated, String.toList_append, List.mem_append] at hc
    rcases hc with hc | hc
    · obtain ⟨segment, hsegment, hc⟩ := Target.mem_simpleName hc
      obtain ⟨_, noSlash, noDot⟩ := TypeRef.plain_of_mem_split binary hsegment
      constructor
      · rintro rfl
        exact noSlash hc
      · rintro rfl
        exact noDot hc
    · have letters : generatedSuffix.toList = ['I', 'm', 'p', 'l'] := rfl
      rw [letters] at hc
      simp only [List.mem_cons, List.not_mem_nil, or_false] at hc
      rcases hc with rfl | rfl | rfl | rfl <;> simp
  constructor
  case segments =>
    intro segment hsegment
    obtain ⟨nonempty, noSlash, noDot⟩ :=
      TypeRef.plain_of_mem_split binary (Target.mem_name_of_mem_packageSegments hsegment)
    have noDot' : dot ∉ OsText.ofChars segment := mt char_mem_ofChars_iff.mp noDot
    constructor
    · exact mt char_mem_ofChars_iff.mp noSlash
    · simpa [OsText.ofChars] using nonempty
    · intro here
      simp [here] at noDot'
    · intro up
      simp [up] at noDot'
  case noSlash => exact fun h => (absent _ (char_mem_ofChars_iff.mp h)).1 rfl
  case noDot => exact fun h => (absent _ (char_mem_ofChars_iff.mp h)).2 rfl
  case nonempty =>
    intro h
    have text : p.generatedName.toList = [] := by simpa [OsText.ofString, OsText.ofChars] using h
    rw [generated, String.toList_append, List.append_eq_nil_iff] at text
    exact absurd text.2 (by decide)

namespace PlainNames

theorem isName_generated (plain : p.PlainNames) {extension : OsText} (h : slash ∉ extension) :
    IsName (OsText.ofString p.generatedName ++ dot :: extension) := by
  have noSlash := plain.noSlash
  have noDot := plain.noDot
  cases hname : OsText.ofString p.generatedName with
  | nil => exact absurd hname plain.nonempty
  | cons first rest =>
    rw [hname] at noSlash noDot
    have first_ne : first ≠ dot := by
      rintro rfl
      exact noDot List.mem_cons_self
    constructor
    · intro mem
      rcases List.mem_append.mp mem with before | after
      · exact noSlash before
      · exact h ((List.mem_cons.mp after).resolve_left (by decide))
    · simp
    · simp
    · simp [first_ne]

theorem components_packageDir (plain : p.PlainNames) (root : Path) :
    (p.packageDir root).components =
      root.components ++ p.target.packageSegments.map fun s => .name (OsText.ofChars s) := by
  have names : ∀ n ∈ p.target.packageSegments.map String.ofList, IsName (OsText.ofString n) := by
    intro n hn
    obtain ⟨segment, hsegment, rfl⟩ := List.mem_map.mp hn
    simpa [OsText.ofString] using plain.segments segment hsegment
  rw [packageDir, components_descend names, List.map_map]
  simp [Function.comp_def, OsText.ofString]

theorem components_file (plain : p.PlainNames) (root : Path) (extension : OsText) {suffix : String}
    (dotted : OsText.ofString suffix = dot :: extension) (noSlash : slash ∉ extension) :
    ((p.packageDir root).child (p.generatedName ++ suffix)).components =
      (p.packageDir root).components ++
        [.name (OsText.ofString p.generatedName ++ dot :: extension)] := by
  have name : IsName (OsText.ofString (p.generatedName ++ suffix)) := by
    rw [OsText.ofString_append, dotted]
    exact plain.isName_generated noSlash
  rw [components_child name, OsText.ofString_append, dotted]

theorem components_sourcePath (plain : p.PlainNames) (root : Path) :
    (p.sourcePath root).components = (p.packageDir root).components ++
      [.name (OsText.ofString p.generatedName ++ dot :: OsText.ofString "java")] :=
  plain.components_file root (OsText.ofString "java") rfl (by decide)

/-- The class file is the source with another extension. -/
theorem withExtension_sourcePath (plain : p.PlainNames) (root : Path) :
    (p.sourcePath root).withExtension "class" = p.classPath root := by
  have java : OsText.ofString (p.generatedName ++ ".java") =
      OsText.ofString p.generatedName ++ dot :: OsText.ofString "java" :=
    OsText.ofString_append _ _
  have class_ : OsText.ofString (p.generatedName ++ ".class") =
      OsText.ofString p.generatedName ++ dot :: OsText.ofString "class" :=
    OsText.ofString_append _ _
  rw [sourcePath, classPath, child, child, ofString, ofString, java, class_]
  exact withExtension_join (plain.isName_generated (by decide)) (plain.isName_generated (by decide))
    plain.nonempty plain.noDot (by decide)

theorem isUnder_packageDir (plain : p.PlainNames) (root : Path) :
    (p.packageDir root).isUnder root := by
  rw [isUnder_iff, plain.components_packageDir]
  exact List.prefix_append _ _

theorem isUnder_file (plain : p.PlainNames) (root : Path) (extension : OsText) {suffix : String}
    (dotted : OsText.ofString suffix = dot :: extension) (noSlash : slash ∉ extension) :
    ((p.packageDir root).child (p.generatedName ++ suffix)).isUnder root := by
  rw [isUnder_iff, plain.components_file root extension dotted noSlash]
  have below := isUnder_iff.mp (plain.isUnder_packageDir root)
  exact below.trans (List.prefix_append _ _)

theorem isUnder_sourcePath (plain : p.PlainNames) (root : Path) :
    (p.sourcePath root).isUnder root :=
  plain.isUnder_file root (OsText.ofString "java") rfl (by decide)

theorem isUnder_classPath (plain : p.PlainNames) (root : Path) :
    (p.classPath root).isUnder root :=
  plain.isUnder_file root (OsText.ofString "class") rfl (by decide)

end PlainNames

def taskStore : Store := Store.empty.insert ⟨[{ name := "a.Task", kind := .interfaceType }]⟩

def taskPlan : Plan :=
  { target := ⟨"a.Task", .interfaceType, (Modifiers.none.insert .interface).insert .abstract⟩,
    generatedName := "TaskImpl", constructors := [], members := .empty }

theorem planFor_taskStore : taskStore.planFor "a.Task" = .ok taskPlan := by cbv

end Plan
end JavaStubs
