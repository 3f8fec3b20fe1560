import JavaStubs.Proofs.Stub.Implementable
import JavaStubs.Proofs.Stub.SourceText
import JavaStubs.Proofs.Types.SourceNames

/-!
# The heads of a class and of its constructors

The head of a generated class and the heads of its constructors carry the modifiers of the target,
but for those that generated code never carries. The modifiers of a nested type are among them, and
the last part of the name of a nested type need not begin as names do. So what is generated for a
nested type can stand by itself only under a condition on its modifiers and on its name.
-/

namespace JavaStubs

open Text

theorem Modifier.keyword_injective : Function.Injective Modifier.keyword := by
  intro m n same
  have found := congrArg Modifier.ofKeyword? same
  rw [ofKeyword?_keyword, ofKeyword?_keyword] at found
  exact Option.some.inj found

/-- The modifiers of a class or of a member that a class which stands by itself may not have. -/
def Modifier.nestedOnly : List Modifier :=
  [.static, .privateAccess, .protectedAccess, .synchronized, .native, .volatile]

theorem Modifier.map_keyword_nestedOnly : nestedOnly.map keyword =
    ["static", "private", "protected", "synchronized", "native", "volatile"] := rfl

namespace Modifiers

variable {s : Modifiers} {m : Modifier}

/-- The members that stand in front of the generated class, in source order. -/
def carried (s : Modifiers) : List Modifier :=
  s.toList.filter (· ∉ [Modifier.abstract, .transient, .interface])

theorem mem_carried : m ∈ s.carried ↔ s.has m ∧ m ∉ [Modifier.abstract, .transient, .interface] := by
  rw [carried, List.mem_filter, mem_toList, decide_eq_true_eq]

theorem toList_emittable (s : Modifiers) : s.emittable.toList = s.carried := by
  rw [carried, toList, toList, List.filter_filter]
  refine List.filter_congr fun m _ => ?_
  rw [Bool.eq_iff_iff, has_emittable]
  simp [and_comm]

theorem keywords_emittable (s : Modifiers) :
    s.emittable.keywords = s.carried.map Modifier.keyword := by
  rw [keywords, toList_emittable]

theorem carried_congr {t : Modifiers}
    (same : ∀ m, m ∉ [Modifier.abstract, .transient, .interface] → (s.has m ↔ t.has m)) :
    s.carried = t.carried := by
  rw [carried, carried, toList, toList, List.filter_filter, List.filter_filter]
  refine List.filter_congr fun m _ => ?_
  rw [Bool.eq_iff_iff, Bool.and_eq_true, Bool.and_eq_true, decide_eq_true_eq]
  exact and_congr_right (same m)

end Modifiers

/-- What the kind of a class or of an interface implies does not show in front of generated code. -/
theorem TypeDecl.carried_normalize {d : TypeDecl} (noEnum : d.kind ≠ .enumType) :
    d.normalize.modifiers.carried = d.modifiers.carried := by
  cases kind : d.kind with
  | enumType => exact absurd kind noEnum
  | classType => rw [normalize_of_class kind]
  | interfaceType =>
    rw [normalize_of_interface kind]
    apply Modifiers.carried_congr
    intro m outside
    simp only [List.mem_cons, List.not_mem_nil, or_false, not_or] at outside
    simp [Modifiers.has_insert, Ne.symm outside.1, Ne.symm outside.2.2]

namespace Source

/-- The modifiers of a class: the words in front of `class`, in the first line that opens a body. -/
def classModifiers (source : String) : List String :=
  match (split '\n' source.toList).findSome? (dropTail? opening) with
  | some head => (words head).takeWhile (· ≠ "class")
  | none => []

/-- The modifiers of a constructor: the words in front of its name. -/
def constructorModifiers (block : String) : List String :=
  match cut? '(' block.toList with
  | some (front, _) => (words front).dropLast
  | none => []

section Keywords

variable {m : Modifiers}

theorem free_of_mem_keywords :
    ∀ w ∈ m.keywords, ' ' ∉ w.toList ∧ '\n' ∉ w.toList ∧ w ≠ "" := by
  intro w hw
  obtain ⟨k, _, rfl⟩ := List.mem_map.mp hw
  cases k <;> decide

/-- The keywords are the words of their text, also if there are bits that no keyword names. -/
theorem words_modifierText_append (m : Modifiers) (rest : List Char) :
    words ((modifierText m).toList ++ rest) = m.emittable.keywords ++ words rest := by
  unfold modifierText
  split
  case isTrue empty =>
    rw [Modifiers.keywords_of_isEmpty empty]
    rfl
  case isFalse =>
    have blank : (" " : String).toList = [' '] := rfl
    rw [String.toList_append, blank, List.append_assoc, List.singleton_append, words_append_blank,
      Modifiers.text, words_joinStrings free_of_mem_keywords]

theorem not_mem_modifierText {mark : Char} (isMark : mark ∈ marks) (noBlank : mark ≠ ' ') :
    mark ∉ (modifierText m).toList := by
  unfold modifierText
  split
  case isTrue => simp
  case isFalse =>
    have blank : (" " : String).toList = [' '] := rfl
    have text : mark ∉ m.emittable.text.toList := by
      rw [Modifiers.text, toList_joinStrings, blank]
      apply not_mem_join (by simpa using noBlank)
      simpa using fun w hw => isWord_of_mem_keywords w hw mark isMark
    simp [text, noBlank]

end Keywords

section Heads

variable {p : Plan}

/-- The words of the head of the class behind its modifiers. -/
def classNames (p : Plan) : List String :=
  ["class", p.generatedName, relation p.target, TypeRef.dotted p.target.localName]

def classLine (p : Plan) : List Char :=
  (modifierText p.target.modifiers).toList ++ join [' '] ((classNames p).map String.toList)

theorem toList_classHead (p : Plan) :
    (classHead p).toList = (classLine p ++ opening) ++ ['\n'] := by
  have opened : openBrace.toList = opening ++ ['\n'] := rfl
  simp [classHead, classLine, classNames, join, opened]

theorem newline_not_mem_classLine (words : p.NamesAreWords) : '\n' ∉ classLine p := by
  have names : ∀ w ∈ classNames p, '\n' ∉ w.toList := fun w hw =>
    isWord_of_mem_classWords words w (List.mem_append_right _ hw) '\n' (by decide)
  rw [classLine, List.mem_append, not_or]
  exact ⟨not_mem_modifierText (by decide) (by decide),
    not_mem_join (by decide) (by simpa using names)⟩

theorem words_classLine (p : Plan) :
    ∃ names, words (classLine p) = p.target.modifiers.emittable.keywords ++ "class" :: names := by
  have word : words "class".toList = ["class"] := words_toList (by decide) (by decide) (by decide)
  have front : join [' '] ((classNames p).map String.toList) =
      "class".toList ++ ' ' :: join [' '] ((classNames p).tail.map String.toList) := rfl
  refine ⟨words (join [' '] ((classNames p).tail.map String.toList)), ?_⟩
  rw [classLine, words_modifierText_append, front, words_append_blank, word]
  rfl

theorem dropTail?_packageLine : ∀ line ∈ packageLines p.target, dropTail? opening line = none := by
  unfold packageLines
  cases p.target.package? with
  | none => simp
  | some package =>
    have clause : dropTail? opening ("package ".toList ++ (package.toList ++ [';'])) = none := by
      simp [dropTail?, opening, dropLead?]
    have blank : dropTail? opening ([] : List Char) = none := rfl
    simpa using ⟨clause, blank⟩

theorem findSome?_opening_render (words : p.NamesAreWords) :
    (split '\n' p.render.toList).findSome? (dropTail? opening) = some (classLine p) := by
  obtain ⟨rest, text⟩ : ∃ rest, p.render.toList =
      ((packageLines p.target ++ [classLine p ++ opening]).flatMap fun line => line ++ ['\n']) ++
        rest := by
    refine ⟨(String.join (p.constructors.map (constructorBlock p)) ++
      String.join (p.members.toList.map memberBlock) ++ closeBrace).toList, ?_⟩
    simp only [Plan.render, String.toList_append, toList_packageClause, toList_classHead,
      List.flatMap_append, List.flatMap_singleton, List.append_assoc]
  have unbroken : ∀ line ∈ packageLines p.target ++ [classLine p ++ opening], '\n' ∉ line := by
    have opened : '\n' ∉ opening := by decide
    intro line hline
    rcases List.mem_append.mp hline with clause | head
    · exact newline_not_mem_packageLines words line clause
    · obtain rfl := List.mem_singleton.mp head
      simp [newline_not_mem_classLine words, opened]
  rw [text, split_lines_append unbroken, List.append_assoc, List.findSome?_append,
    List.findSome?_eq_none_iff.mpr dropTail?_packageLine, Option.none_or, List.singleton_append]
  simp only [List.findSome?_cons, dropTail?_append]

theorem classModifiers_render (words : p.NamesAreWords) :
    classModifiers p.render = p.target.modifiers.carried.map Modifier.keyword := by
  obtain ⟨names, inLine⟩ := words_classLine p
  have noClass : ∀ w ∈ p.target.modifiers.emittable.keywords, w ≠ "class" := by
    intro w hw
    obtain ⟨k, _, rfl⟩ := List.mem_map.mp hw
    cases k <;> decide
  rw [classModifiers, findSome?_opening_render words]
  simp only [inLine]
  rw [List.takeWhile_append_of_pos (by simpa using noClass), List.takeWhile_cons_of_neg (by simp),
    List.append_nil, Modifiers.keywords_emittable]

theorem constructorModifiers_block (words : p.NamesAreWords) (named : p.generatedName ≠ "")
    (c : ConstructorObligation) :
    constructorModifiers (constructorBlock p c) = p.target.modifiers.carried.map Modifier.keyword := by
  let front := (modifierText p.target.modifiers).toList ++ p.generatedName.toList
  obtain ⟨rest, text⟩ : ∃ rest,
      (constructorBlock p c).toList = ('\n' :: (indent.toList ++ front)) ++ '(' :: rest := by
    refine ⟨(joinStrings ", " (parametersFrom 0 c.params) ++ ")" ++ throwsClause c.throws ++
      openBrace ++ indent ++ indent ++ superCall c.params.length ++ "\n" ++ indent ++
      closeBrace).toList, ?_⟩
    simp [constructorBlock, block, parameterList, front]
  have free : '(' ∉ '\n' :: (indent.toList ++ front) := by
    have blanks : '(' ∉ indent.toList := by decide
    have mods : '(' ∉ (modifierText p.target.modifiers).toList :=
      not_mem_modifierText (by decide) (by decide)
    simp [front, blanks, mods, words.generated '(' (by decide)]
  have inFront : Text.words ('\n' :: (indent.toList ++ front)) =
      p.target.modifiers.emittable.keywords ++ [p.generatedName] := by
    have blanks : indent.toList = [' ', ' ', ' ', ' '] := rfl
    have name := words_toList (words.generated ' ' (by decide)) (words.generated '\n' (by decide))
      named
    rw [words_cons_newline, blanks]
    simp only [List.cons_append, List.nil_append, words_cons_blank, front]
    rw [words_modifierText_append, name]
  rw [constructorModifiers, text, cut?_append free]
  simp only [inFront]
  rw [List.dropLast_concat, Modifiers.keywords_emittable]

end Heads

end Source

namespace Target

variable {t : Target}

theorem dollar_not_mem_simpleName (t : Target) : '$' ∉ t.simpleName.toList := by
  rw [simpleName, String.toList_ofList]
  exact not_mem_of_mem_split (lastPiece_mem_split '$' _)

theorem isNamePart_of_mem_simpleName (binary : TypeRef.isBinaryName t.name.toList) {c : Char}
    (h : c ∈ t.simpleName.toList) : TypeRef.isNamePart c := by
  obtain ⟨segment, hsegment, hc⟩ := mem_simpleName h
  simp only [TypeRef.isBinaryName, List.all_eq_true] at binary
  exact TypeRef.isNamePart_of_mem_segment (binary segment hsegment) hc

theorem beginsWith_simpleName (binary : TypeRef.isBinaryName t.name.toList)
    (notNested : '$' ∉ t.name.toList) : BeginsWith TypeRef.IsOpening t.simpleName.toList := by
  have last := lastPiece_mem_split '.' t.name.toList
  have whole : lastPiece '$' (lastPiece '.' t.name.toList) = lastPiece '.' t.name.toList := by
    rw [lastPiece, split_eq_singleton fun dollar => notNested (mem_of_mem_split last dollar)]
    rfl
  have noDollar := t.dollar_not_mem_simpleName
  rw [simpleName, String.toList_ofList, whole] at noDollar ⊢
  simp only [TypeRef.isBinaryName, List.all_eq_true] at binary
  have segment := binary _ last
  cases h : lastPiece '.' t.name.toList with
  | nil =>
    rw [h] at segment
    cases segment
  | cons first rest =>
    rw [h] at segment noDollar
    simp only [TypeRef.isSegment, Bool.and_eq_true] at segment
    exact beginsWith_cons.mpr (TypeRef.isOpening_iff.mpr
      ⟨segment.1, (List.ne_of_not_mem_cons noDollar).symm⟩)

end Target

section GeneratedName

variable {simple : List Char}

/-- With the suffix a name is what it was without, and nothing becomes a name. -/
theorem isSegment_append_suffix (parts : ∀ c ∈ simple, TypeRef.isNamePart c)
    (noDollar : '$' ∉ simple) :
    TypeRef.IsSegment (simple ++ generatedSuffix.toList) ↔
      simple = [] ∨ BeginsWith TypeRef.IsOpening simple := by
  rw [← TypeRef.isSegment_iff]
  cases simple with
  | nil => simpa using (by decide : TypeRef.isSegment generatedSuffix.toList = true)
  | cons first rest =>
    have suffix : generatedSuffix.toList.all TypeRef.isNamePart := by decide
    have others : rest.all TypeRef.isNamePart :=
      List.all_eq_true.mpr fun c hc => parts c (List.mem_cons_of_mem _ hc)
    have notDollar : first ≠ '$' := (List.ne_of_not_mem_cons noDollar).symm
    simp [TypeRef.isSegment, TypeRef.isOpening_iff, beginsWith_cons, suffix, others, notDollar]

end GeneratedName

/-- The class may stand by itself in a source unit: its head has no modifier of nested classes or of
members, its constructors have only modifiers of access, and it has the name of a class. -/
structure Plan.StandsAlone (p : Plan) : Prop where
  header : ∀ word ∈ ["static", "private", "protected", "synchronized", "native", "volatile"],
    word ∉ Source.classModifiers p.render
  constructors : ∀ c ∈ p.constructors,
    ∀ word ∈ Source.constructorModifiers (Source.constructorBlock p c),
      word ∈ ["public", "protected", "private"]
  name : TypeRef.IsSegment p.generatedName.toList

/-- What is left in front of a constructor says who may use it, unless it is `strictfp`. -/
theorem Modifiers.carried_access_iff {s : Modifiers} (notFinal : .final ∉ s.carried)
    (notNested : ∀ m ∈ Modifier.nestedOnly, ¬ s.has m) :
    (∀ word ∈ s.carried.map Modifier.keyword, word ∈ ["public", "protected", "private"]) ↔
      ¬ s.has .strictfp := by
  have others : ∀ m : Modifier, m ∉ [Modifier.abstract, .transient, .interface] →
      m ∉ Modifier.nestedOnly → m ≠ .final → m ≠ .strictfp →
        m.keyword ∈ ["public", "protected", "private"] := by
    intro m
    cases m <;> decide
  constructor
  · intro access strict
    have outside := access _ (List.mem_map_of_mem (mem_carried.mpr ⟨strict, by decide⟩))
    revert outside
    decide
  · intro notStrict word hword
    obtain ⟨m, hm, rfl⟩ := List.mem_map.mp hword
    obtain ⟨has, unmasked⟩ := mem_carried.mp hm
    refine others m unmasked (fun nested => notNested m nested has) ?_ ?_
    · rintro rfl
      exact notFinal hm
    · rintro rfl
      exact notStrict has

namespace Store

/-- What stands in front of the class and of its constructors and what the class is called, and when
it may stand by itself. -/
structure Heads (s : Store) (name : String) (p : Plan) : Prop where
  header : Source.classModifiers p.render = p.target.modifiers.carried.map Modifier.keyword
  declared : ∀ d, s.Denotes name d → p.target.modifiers.carried = d.modifiers.carried
  notFinal : .final ∉ p.target.modifiers.carried
  constructors : ∀ c ∈ p.constructors,
    Source.constructorModifiers (Source.constructorBlock p c) = Source.classModifiers p.render
  name : p.generatedName = p.target.simpleName ++ "Impl"
  nameParts : ∀ c ∈ p.generatedName.toList, TypeRef.isNamePart c
  isSegment_iff : TypeRef.IsSegment p.generatedName.toList ↔
    p.target.simpleName = "" ∨ BeginsWith TypeRef.IsOpening p.target.simpleName.toList
  notNested : '$' ∉ p.target.name.toList → TypeRef.IsSegment p.generatedName.toList
  standsAlone : p.StandsAlone ↔
    (∀ m ∈ Modifier.nestedOnly, ¬ p.target.modifiers.has m) ∧
    (p.constructors ≠ [] → ¬ p.target.modifiers.has .strictfp) ∧
    (p.target.simpleName = "" ∨ BeginsWith TypeRef.IsOpening p.target.simpleName.toList)

variable {s : Store} {name : String} {p : Plan}

theorem standsAlone_iff
    (header : Source.classModifiers p.render = p.target.modifiers.carried.map Modifier.keyword)
    (constructors : ∀ c ∈ p.constructors,
      Source.constructorModifiers (Source.constructorBlock p c) = Source.classModifiers p.render)
    (notFinal : .final ∉ p.target.modifiers.carried)
    (segment : TypeRef.IsSegment p.generatedName.toList ↔
      p.target.simpleName = "" ∨ BeginsWith TypeRef.IsOpening p.target.simpleName.toList) :
    p.StandsAlone ↔
      (∀ m ∈ Modifier.nestedOnly, ¬ p.target.modifiers.has m) ∧
      (p.constructors ≠ [] → ¬ p.target.modifiers.has .strictfp) ∧
      (p.target.simpleName = "" ∨ BeginsWith TypeRef.IsOpening p.target.simpleName.toList) := by
  have unmasked : ∀ m ∈ Modifier.nestedOnly, m ∉ [Modifier.abstract, .transient, .interface] := by
    decide
  have shown : ∀ m ∈ Modifier.nestedOnly,
      (m.keyword ∉ Source.classModifiers p.render ↔ ¬ p.target.modifiers.has m) := by
    intro m hm
    rw [header, List.mem_map_of_injective Modifier.keyword_injective, Modifiers.mem_carried]
    exact not_congr (and_iff_left (unmasked m hm))
  have access := Modifiers.carried_access_iff notFinal
  rw [← header] at access
  constructor
  · intro alone
    have free : ∀ m ∈ Modifier.nestedOnly, ¬ p.target.modifiers.has m := by
      intro m hm
      have listed : m.keyword ∈ Modifier.nestedOnly.map Modifier.keyword := List.mem_map_of_mem hm
      exact (shown m hm).mp (alone.header _ (Modifier.map_keyword_nestedOnly ▸ listed))
    refine ⟨free, fun some => ?_, segment.mp alone.name⟩
    obtain ⟨c, hc⟩ := List.exists_mem_of_ne_nil _ some
    exact (access free).mp (constructors c hc ▸ alone.constructors c hc)
  · rintro ⟨free, notStrict, opening⟩
    constructor
    · intro word hword
      rw [← Modifier.map_keyword_nestedOnly] at hword
      obtain ⟨m, hm, rfl⟩ := List.mem_map.mp hword
      exact (shown m hm).mpr (free m hm)
    · intro c hc
      rw [constructors c hc]
      exact (access free).mpr (notStrict (List.ne_nil_of_mem hc))
    · exact segment.mpr opening

/-- The class and its constructors carry the modifiers of the target but for those that generated
code never carries, and the class may stand by itself exactly if none of these belongs to nested
classes or to members and its name begins as names do. -/
theorem heads_of_planFor (s : Store) (name : String) (p : Plan) (planned : s.planFor name = .ok p) :
    s.Heads name p := by
  obtain ⟨resolved, accepted, generated⟩ := planFor_eq_ok planned
  have declared := Target.declared_of_rejection?_eq_none accepted
  have binary := isBinaryName_of_resolve resolved declared
  have words := Plan.namesAreWords_of_planFor planned
  have isOpen := p.target.rejection?_eq_none_iff.mp accepted
  have parts : ∀ c ∈ p.target.simpleName.toList, TypeRef.isNamePart c :=
    fun c hc => Target.isNamePart_of_mem_simpleName binary hc
  have nonempty : p.generatedName ≠ "" := by
    rw [generated, generatedSuffix]
    simp
  have notFinal : .final ∉ p.target.modifiers.carried :=
    fun final => isOpen (.inr (.inr (.inr (Modifiers.mem_carried.mp final).1)))
  have header := Source.classModifiers_render words
  have constructors : ∀ c ∈ p.constructors,
      Source.constructorModifiers (Source.constructorBlock p c) = Source.classModifiers p.render :=
    fun c _ => (Source.constructorModifiers_block words nonempty c).trans header.symm
  have segment : TypeRef.IsSegment p.generatedName.toList ↔
      p.target.simpleName = "" ∨ BeginsWith TypeRef.IsOpening p.target.simpleName.toList := by
    rw [generated, String.toList_append,
      isSegment_append_suffix parts p.target.dollar_not_mem_simpleName, String.toList_eq_nil_iff]
  constructor
  case header => exact header
  case declared =>
    intro d denotes
    have target : d.normalize.target = p.target :=
      Except.ok.inj (denotes.resolve_eq.symm.trans resolved)
    have noEnum : d.kind ≠ .enumType := by
      intro isEnum
      rw [← target, d.isClosed_target_iff] at isOpen
      exact isOpen (.inl isEnum)
    rw [← target]
    exact TypeDecl.carried_normalize noEnum
  case notFinal => exact notFinal
  case constructors => exact constructors
  case name => exact generated
  case nameParts =>
    have suffix : generatedSuffix.toList.all TypeRef.isNamePart := by decide
    intro c hc
    rw [generated, String.toList_append, List.mem_append] at hc
    exact hc.elim (parts c) (List.all_eq_true.mp suffix c)
  case isSegment_iff => exact segment
  case notNested =>
    exact fun noDollar => segment.mpr (.inr (Target.beginsWith_simpleName binary noDollar))
  case standsAlone => exact standsAlone_iff header constructors notFinal segment

def lid : TypeDecl :=
  { name := "a.Crate$Lid", modifiers := .ofList [.publicAccess, .static, .abstract] }

def crateStore : Store := empty.insert ⟨[rootDecl, lid]⟩

def cratePlan : Plan :=
  { target := lid.normalize.target, generatedName := "LidImpl",
    constructors := [⟨[], [], .single .publicAccess⟩], members := .empty }

def numbered : TypeDecl := { name := "a.Crate$1", kind := .interfaceType }

def numberedStore : Store := empty.insert ⟨[numbered]⟩

def numberedPlan : Plan :=
  { target := numbered.normalize.target, generatedName := "1Impl", constructors := [],
    members := .empty }

theorem planFor_crateStore : crateStore.planFor "a.Crate$Lid" = .ok cratePlan := by
  have found : crateStore.find? lid.normalize.name = some lid.normalize := rfl
  have chain : crateStore.SuperChain "a.Crate$Lid" [lid.normalize, rootDecl.normalize] :=
    .link rfl rfl (.top rfl rfl)
  have noInterfaces : crateStore.interfacesOfChain [lid.normalize, rootDecl.normalize] = .ok [] :=
    interfacesOfChain_of_empty rfl
  have obligations : crateStore.obligations lid.normalize.target = .ok cratePlan.members :=
    (obligations_eq_ok_iff (.insert _ .empty) found).mpr ⟨_, [], chain, noInterfaces, rfl⟩
  have resolved : crateStore.resolve "a.Crate$Lid" = .ok lid.normalize.target := rfl
  rw [planFor, resolved]
  simp only [plan, surface, bind, Except.bind, obligations]
  rfl

theorem planFor_numberedStore : numberedStore.planFor "a.Crate$1" = .ok numberedPlan := by cbv

theorem cratePlan_heads :
    crateStore.planFor "a.Crate$Lid" = .ok cratePlan ∧ crateStore.Denotes "a.Crate$Lid" lid ∧
      crateStore.Heads "a.Crate$Lid" cratePlan :=
  ⟨planFor_crateStore, ⟨by cbv, rfl⟩, heads_of_planFor _ _ _ planFor_crateStore⟩

/-- The class that is generated for a static class is static, as is its constructor, and a number
for a name is not made one by the suffix. -/
theorem static_head_written :
    (¬ ∀ (s : Store) (name : String) (p : Plan), s.planFor name = .ok p →
      ∀ word ∈ ["static", "private", "protected", "synchronized", "native", "volatile"],
        word ∉ Source.classModifiers p.render) ∧
    (¬ ∀ (s : Store) (name : String) (p : Plan), s.planFor name = .ok p →
      ∀ c ∈ p.constructors, ∀ word ∈ Source.constructorModifiers (Source.constructorBlock p c),
        word ∈ ["public", "protected", "private"]) ∧
    ¬ ∀ (s : Store) (name : String) (p : Plan), s.planFor name = .ok p →
      TypeRef.IsSegment p.generatedName.toList := by
  refine ⟨fun claim => ?_, fun claim => ?_, fun claim => ?_⟩
  · have free := claim _ _ _ planFor_crateStore "static" (by decide)
    revert free
    decide +kernel
  · have access := claim _ _ _ planFor_crateStore ⟨[], [], .single .publicAccess⟩
      List.mem_cons_self "static"
    revert access
    decide +kernel
  · have segment := TypeRef.isSegment_iff.mpr (claim _ _ _ planFor_numberedStore)
    revert segment
    decide +kernel

end Store
end JavaStubs
