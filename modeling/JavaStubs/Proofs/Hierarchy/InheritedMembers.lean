import JavaStubs.Proofs.Hierarchy.InterfaceWalk

/-!
# The inherited surface

The methods that users of a type see: one for each signature that some declaration of the superclass
chain shows or that some reachable interface passes on. Where the chain shows a signature, the copy
is the one of the nearest declaration. The query fails exactly if the chain is broken or a reachable
interface is not declared.
-/

namespace JavaStubs

open Relation

section FirstByKey

variable {α κ : Type} [DecidableEq κ] (key : α → κ)

theorem mem_firstByKeyFrom_iff {seen : List κ} {l : List α} {a : α} :
    a ∈ firstByKeyFrom key seen l ↔
      key a ∉ seen ∧ l.find? (fun b => key b = key a) = some a := by
  induction l generalizing seen with
  | nil => simp [firstByKeyFrom]
  | cons b rest ih =>
    by_cases hb : key b ∈ seen
    · have differs : key a ∉ seen → key b ≠ key a := fun ha e => ha (e ▸ hb)
      simp only [firstByKeyFrom, hb, ↓reduceIte, ih, List.find?_cons]
      constructor
      · rintro ⟨ha, found⟩
        exact ⟨ha, by simpa [differs ha] using found⟩
      · rintro ⟨ha, found⟩
        exact ⟨ha, by simpa [differs ha] using found⟩
    · simp only [firstByKeyFrom, hb, ↓reduceIte, List.mem_cons, ih, not_or, List.find?_cons]
      by_cases same : key b = key a
      · simp only [same, not_true_eq_false, false_and, or_false, decide_true, Option.some.injEq]
        exact ⟨fun e => ⟨e ▸ same ▸ hb, e.symm⟩, fun h => h.2.symm⟩
      · have other : a ≠ b := fun e => same (e ▸ rfl)
        simp [same, other, Ne.symm same]

theorem mem_firstByKey_iff {l : List α} {a : α} :
    a ∈ firstByKey key l ↔ l.find? (fun b => key b = key a) = some a := by
  simp [firstByKey, mem_firstByKeyFrom_iff]

end FirstByKey

namespace TypeDecl

/-- The first method with signature `k` that the declaration shows as part of a superclass chain:
among the public ones, or among all of them where it is an interface. -/
def shown? (d : TypeDecl) (k : Signature) : Option MethodDecl :=
  d.methods.find? fun m =>
    m.signature = k ∧ (m.modifiers.has .publicAccess ∨ d.kind = .interfaceType)

/-- The first method with signature `k` that the declaration passes on to those that list it as an
interface. -/
def inheritable? (d : TypeDecl) (k : Signature) : Option MethodDecl :=
  d.methods.find? fun m => m.signature = k ∧ ¬ m.modifiers.has .static

theorem find?_chainMethods (d : TypeDecl) (k : Signature) :
    (d.chainMethods.find? fun m => m.signature = k) = d.shown? k := by
  simp only [chainMethods, shown?, List.find?_filter, Bool.or_eq_true, decide_eq_true_eq]
  congr
  funext m
  exact decide_eq_decide.mpr and_comm

theorem find?_instanceMethods (d : TypeDecl) (k : Signature) :
    (d.instanceMethods.find? fun m => m.signature = k) = d.inheritable? k := by
  simp only [instanceMethods, inheritable?, List.find?_filter, decide_eq_true_eq]
  congr
  funext m
  exact decide_eq_decide.mpr (by simp [and_comm])

variable {d : TypeDecl} {k : Signature} {m : MethodDecl}

theorem shown?_isSome_iff : (d.shown? k).isSome ↔ ∃ m ∈ d.methods, m.signature = k ∧
    (m.modifiers.has .publicAccess ∨ d.kind = .interfaceType) := by
  simp [shown?]

theorem inheritable?_isSome_iff : (d.inheritable? k).isSome ↔
    ∃ m ∈ d.methods, m.signature = k ∧ ¬ m.modifiers.has .static := by
  simp [inheritable?]

theorem shown?_eq_some (h : d.shown? k = some m) : m ∈ d.methods ∧ m.signature = k ∧
    (m.modifiers.has .publicAccess ∨ d.kind = .interfaceType) :=
  ⟨List.mem_of_find?_eq_some h, by simpa using List.find?_some h⟩

theorem inheritable?_eq_some (h : d.inheritable? k = some m) :
    m ∈ d.methods ∧ m.signature = k ∧ ¬ m.modifiers.has .static :=
  ⟨List.mem_of_find?_eq_some h, by simpa using List.find?_some h⟩

end TypeDecl

/-- The method with signature `k` that users of a type see: the first one on its chain or, if the
chain shows none, the first one among the collected interfaces. -/
def visible? (chain walk : List TypeDecl) (k : Signature) : Option MethodDecl :=
  (chain.findSome? (·.shown? k)).or (walk.findSome? (·.inheritable? k))

theorem signature_of_visible? {chain walk : List TypeDecl} {k : Signature} {m : MethodDecl}
    (h : visible? chain walk k = some m) : m.signature = k := by
  rcases Option.or_eq_some_iff.mp h with h | ⟨_, h⟩
  · obtain ⟨d, _, hd⟩ := List.exists_of_findSome?_eq_some h
    exact (TypeDecl.shown?_eq_some hd).2.1
  · obtain ⟨d, _, hd⟩ := List.exists_of_findSome?_eq_some h
    exact (TypeDecl.inheritable?_eq_some hd).2.1

namespace Store

variable {s : Store}

section Members

variable {t : Target} {ms : List MethodDecl}

theorem members_eq (declared : t.shape = .classType ∨ t.shape = .interfaceType) :
    s.members t = (do
      let chain ← s.chain t.name
      let interfaces ← s.interfacesOfChain chain
      return firstByKey MethodDecl.signature
        (chain.flatMap TypeDecl.chainMethods ++ interfaces.flatMap TypeDecl.instanceMethods)) := by
  rcases declared with h | h <;> simp [members, h]

theorem members_eq_ok_iff (declared : t.shape = .classType ∨ t.shape = .interfaceType) :
    s.members t = .ok ms ↔ ∃ chain walk, s.SuperChain t.name chain ∧
      s.interfacesOfChain chain = .ok walk ∧ ms = firstByKey MethodDecl.signature
        (chain.flatMap TypeDecl.chainMethods ++ walk.flatMap TypeDecl.instanceMethods) := by
  rw [members_eq declared]
  simp only [Outcome.bind_eq_ok_iff, chain_eq_ok_iff, pure, Except.pure, Except.ok.injEq]
  constructor
  · rintro ⟨chain, isChain, walk, ok, rfl⟩
    exact ⟨chain, walk, isChain, ok, rfl⟩
  · rintro ⟨chain, walk, isChain, ok, rfl⟩
    exact ⟨chain, isChain, walk, ok, rfl⟩

theorem members_eq_error_iff (declared : t.shape = .classType ∨ t.shape = .interfaceType) :
    (∃ e, s.members t = .error e) ↔
      s.BrokenChain t.name ∨ ∃ n, s.InterfaceOf t.name n ∧ s.find? n = none := by
  rw [members_eq declared]
  rcases Outcome.ok_or_error (s.chain t.name) with ⟨chain, ok⟩ | ⟨e, error⟩
  · have isChain := chain_eq_ok_iff.mp ok
    simp only [Outcome.bind_eq_error_iff, ok, ← interfacesOfChain_eq_error_iff isChain,
      isChain.not_broken, false_or]
    simp [pure, Except.pure]
  · have broken := brokenChain_of_chain_error error
    simp [error, broken, bind, Except.bind]

theorem find?_chain_append_walk (chain walk : List TypeDecl) (k : Signature) :
    (chain.flatMap TypeDecl.chainMethods ++ walk.flatMap TypeDecl.instanceMethods).find?
      (fun m => m.signature = k) = visible? chain walk k := by
  simp only [List.find?_append, List.find?_flatMap, TypeDecl.find?_chainMethods,
    TypeDecl.find?_instanceMethods, visible?]

theorem mem_visibleMethods_iff {chain walk : List TypeDecl} {m : MethodDecl} :
    m ∈ firstByKey MethodDecl.signature
        (chain.flatMap TypeDecl.chainMethods ++ walk.flatMap TypeDecl.instanceMethods) ↔
      visible? chain walk m.signature = some m := by
  rw [mem_firstByKey_iff, find?_chain_append_walk]

theorem visible?_isSome_iff {name : String} {chain walk : List TypeDecl}
    (isChain : s.SuperChain name chain) (ok : s.interfacesOfChain chain = .ok walk)
    {k : Signature} :
    (visible? chain walk k).isSome ↔
      (∃ d ∈ chain, (d.shown? k).isSome) ∨
        ∃ n d, s.InterfaceOf name n ∧ s.find? n = some d ∧ (d.inheritable? k).isSome := by
  rw [visible?, Option.isSome_or, Bool.or_eq_true, List.findSome?_isSome_iff,
    List.findSome?_isSome_iff]
  constructor
  · rintro (h | ⟨d, hd, passes⟩)
    · exact .inl h
    · obtain ⟨reached, found⟩ := interfaceOf_of_walk isChain ok hd
      exact .inr ⟨d.name, d, reached, found, passes⟩
  · rintro (h | ⟨n, d, reached, found, passes⟩)
    · exact .inl h
    · rcases mem_of_interfaceOf isChain ok reached with mem | ⟨c, hc, isInterface, rfl⟩
      · obtain ⟨e, he, rfl⟩ := List.mem_map.mp mem
        obtain rfl := Option.some.inj ((interfaceOf_of_walk isChain ok he).2.symm.trans found)
        exact .inr ⟨e, he, passes⟩
      · -- An interface of the chain that links lead back to has shown its methods on the chain.
        obtain rfl := Option.some.inj ((isChain.mem_iff.mp hc).2.symm.trans found)
        obtain ⟨m, hm, key, _⟩ := TypeDecl.inheritable?_isSome_iff.mp passes
        exact .inl ⟨c, hc, TypeDecl.shown?_isSome_iff.mpr ⟨m, hm, key, .inr isInterface⟩⟩

end Members

end Store
end JavaStubs
