import JavaStubs.Proofs.Stub.PlanPaths

/-!
# Where the output of a plan lies

What a plan adds to a root are the segments of the package and the name of one file, each of them a
plain name, so the output lies strictly below the root whatever the declarations say. The source,
the class file and the entry of the class file in an archive are named by different means, which
agree.
-/

namespace JavaStubs

open Text JavaStubs.Path

namespace Path

variable {p : Path}

theorem not_isAbsolute_joinStrings {names : List String}
    (h : ∀ name ∈ names, IsName (OsText.ofString name)) (nonempty : names ≠ []) :
    ¬ (ofString (joinStrings "/" names)).isAbsolute := by
  cases names with
  | nil => exact absurd rfl nonempty
  | cons front rest =>
    have name := h front List.mem_cons_self
    cases rest with
    | nil => exact name.not_isAbsolute
    | cons next more =>
      rw [ofString, joinStrings, String.append_assoc, OsText.ofString_append]
      exact name.not_isAbsolute_append _

theorem child_descend {names : List String} {last : String}
    (h : ∀ name ∈ names ++ [last], IsName (OsText.ofString name)) :
    (p.descend names).child last = p.join (ofString (joinStrings "/" (names ++ [last]))) := by
  induction names generalizing p with
  | nil => rfl
  | cons name rest ih =>
    have later : ∀ n ∈ rest ++ [last], IsName (OsText.ofString n) := fun n hn =>
      h n (List.mem_cons_of_mem _ hn)
    have relative := not_isAbsolute_joinStrings later (by simp)
    have text : joinStrings "/" (name :: (rest ++ [last])) =
        name ++ "/" ++ joinStrings "/" (rest ++ [last]) := by
      cases rest <;> rfl
    calc (p.descend (name :: rest)).child last
        = (p.child name).join (ofString (joinStrings "/" (rest ++ [last]))) := ih later
      _ = p.join ⟨OsText.ofString name ++
            slash :: OsText.ofString (joinStrings "/" (rest ++ [last]))⟩ :=
          join_join (h name List.mem_cons_self) relative
      _ = p.join (ofString (joinStrings "/" (name :: rest ++ [last]))) := by
          rw [List.cons_append, text, ofString, OsText.ofString_append, OsText.ofString_append,
            List.append_assoc]
          rfl

end Path

/-- The segments of a declared name are those of its package and, last, the name inside of it. -/
theorem Target.split_name {t : Target}
    (declared : t.shape = .classType ∨ t.shape = .interfaceType) :
    split '.' t.name.toList = t.packageSegments ++ [t.localName.toList] := by
  have package : t.packageSegments = (split '.' t.name.toList).dropLast := by
    rcases declared with h | h <;> simp [packageSegments, h]
  obtain ⟨front, last, pieces⟩ :=
    (List.eq_nil_or_concat' (split '.' t.name.toList)).resolve_left (split_ne_nil _ _)
  have name := join_split '.' t.name.toList
  rw [pieces] at package name ⊢
  rw [List.dropLast_concat] at package
  have inside : t.localName.toList = last := by
    unfold localName
    split
    case isTrue bare =>
      rw [← package, bare] at name
      exact name.symm
    case isFalse =>
      simp [lastPiece, pieces]
  rw [package, inside]

namespace Plan

def sourceFile (p : Plan) : String := p.target.simpleName ++ "Impl.java"

/-- What the paths of a plan add to a root, and that they agree. -/
structure OutputBelow (p : Plan) (root : Path) : Prop where
  segments : split '.' p.target.name.toList =
    p.target.packageSegments ++ [p.target.localName.toList]
  source : (p.sourcePath root).components = root.components ++
    (p.target.packageSegments.map OsText.ofChars ++ [OsText.ofString p.sourceFile]).map .name
  plain : ∀ added ∈ p.target.packageSegments.map OsText.ofChars ++ [OsText.ofString p.sourceFile],
    IsName added ∧ ¬ (Path.mk added).isAbsolute
  below : (p.sourcePath root).isUnder root
  strictly : ¬ root.isUnder (p.sourcePath root)
  classFile : p.classPath root = (p.sourcePath root).withExtension "class"
  entry : p.classPath root = root.join (.ofString p.classEntry)

variable {p : Plan}

theorem PlainNames.classPath_eq_join (plain : p.PlainNames) (root : Path) :
    p.classPath root = root.join (.ofString p.classEntry) := by
  apply child_descend
  intro name hname
  rcases List.mem_append.mp hname with segment | file
  · obtain ⟨s, hs, rfl⟩ := List.mem_map.mp segment
    simpa [OsText.ofString] using plain.segments s hs
  · obtain rfl := List.mem_singleton.mp file
    rw [OsText.ofString_append]
    exact plain.isName_generated (by decide)

/-- The output of every plan lies strictly below every root, and its paths agree. -/
theorem outputBelow_of_planFor {s : Store} {name : String} (planned : s.planFor name = .ok p)
    (root : Path) : p.OutputBelow root := by
  have plain := plainNames_of_planFor planned
  obtain ⟨_, accepted, generated⟩ := Store.planFor_eq_ok planned
  have file : OsText.ofString p.sourceFile =
      OsText.ofString p.generatedName ++ dot :: OsText.ofString "java" := by
    rw [generated, OsText.ofString_append, List.append_assoc]
    exact OsText.ofString_append _ _
  have source : (p.sourcePath root).components = root.components ++
      (p.target.packageSegments.map OsText.ofChars ++ [OsText.ofString p.sourceFile]).map .name := by
    rw [plain.components_sourcePath, plain.components_packageDir, file, List.append_assoc,
      List.map_append, List.map_map]
    rfl
  constructor
  case segments => exact Target.split_name (Target.declared_of_rejection?_eq_none accepted)
  case source => exact source
  case plain =>
    intro added hadded
    have isName : IsName added := by
      rcases List.mem_append.mp hadded with segment | last
      · obtain ⟨s, hs, rfl⟩ := List.mem_map.mp segment
        exact plain.segments s hs
      · rw [List.mem_singleton.mp last, file]
        exact plain.isName_generated (by decide)
    exact ⟨isName, isName.not_isAbsolute⟩
  case below => exact plain.isUnder_sourcePath root
  case strictly =>
    intro above
    have shorter := (isUnder_iff.mp above).length_le
    rw [source, List.length_append, List.length_map, List.length_append, List.length_singleton]
      at shorter
    omega
  case classFile => exact (plain.withExtension_sourcePath root).symm
  case entry => exact plain.classPath_eq_join root

def lidStore : Store := Store.empty.insert ⟨[{ name := "a.b.Box$Lid", kind := .interfaceType }]⟩

def lidPlan : Plan :=
  { target := ⟨"a.b.Box$Lid", .interfaceType, (Modifiers.none.insert .interface).insert .abstract⟩,
    generatedName := "LidImpl", constructors := [], members := .empty }

theorem planFor_lidStore : lidStore.planFor "a.b.Box$Lid" = .ok lidPlan := by cbv

theorem lidPlan_outputBelow :
    lidStore.planFor "a.b.Box$Lid" = .ok lidPlan ∧
    lidPlan.sourcePath (.ofString "out") = .ofString "out/a/b/LidImpl.java" ∧
    lidPlan.OutputBelow (.ofString "out") :=
  ⟨planFor_lidStore, by cbv, outputBelow_of_planFor planFor_lidStore _⟩

end Plan
end JavaStubs
