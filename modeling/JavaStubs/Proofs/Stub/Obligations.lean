import JavaStubs.Proofs.Hierarchy.Ancestors
import JavaStubs.Proofs.Hierarchy.InterfaceSearch

/-!
# Which methods become obligations

A signature becomes an obligation for one of two reasons: the method that users of the type meet
first has no body, or some declaration on the superclass chain has a method without a body. The
second reason disregards bodies that nearer declarations supply, and under the first one a body that
an unrelated interface supplies can hide a method that still lacks one.
-/

namespace JavaStubs

namespace ObligationSet

variable {s : ObligationSet} {m : MemberObligation} {ms : List MemberObligation} {k : Signature}

theorem contains_empty : ¬ empty.contains k := by
  simp [contains, signatures, empty]

theorem contains_insert : (s.insert m).2.contains k ↔ s.contains k ∨ m.signature = k := by
  unfold insert
  split
  case isTrue present =>
    constructor
    · exact .inl
    · rintro (h | rfl)
      · exact h
      · simpa [contains] using present
  case isFalse =>
    simp [contains, signatures, eq_comm (a := k)]

theorem contains_extend : (s.extend ms).contains k ↔ s.contains k ∨ ∃ m ∈ ms, m.signature = k := by
  unfold extend
  induction ms generalizing s with
  | nil => simp
  | cons m rest ih =>
    rw [List.foldl_cons, ih, contains_insert, or_assoc]
    simp

theorem contains_ofList : (ofList ms).contains k ↔ ∃ m ∈ ms, m.signature = k := by
  rw [ofList, contains_extend, or_iff_right contains_empty]

end ObligationSet

theorem mem_abstractMembers_iff {methods : List MethodDecl} {k : Signature} :
    (∃ o ∈ abstractMembers methods, o.signature = k) ↔
      ∃ m ∈ methods, m.signature = k ∧ m.isAbstract := by
  simp only [abstractMembers, List.mem_map, List.mem_filter]
  constructor
  · rintro ⟨_, ⟨m, ⟨hm, bodiless⟩, rfl⟩, key⟩
    exact ⟨m, hm, key, bodiless⟩
  · rintro ⟨m, hm, key, bodiless⟩
    exact ⟨_, ⟨m, ⟨hm, bodiless⟩, rfl⟩, key⟩

def TypeDecl.DeclaresAbstract (d : TypeDecl) (k : Signature) : Prop :=
  ∃ m ∈ d.methods, m.signature = k ∧ m.isAbstract

namespace Store

variable {s : Store}

section Obligations

variable {d : TypeDecl} {set : ObligationSet}

theorem obligations_eq_ok_iff (built : s.OfCatalogs) (found : s.find? d.name = some d) :
    s.obligations d.target = .ok set ↔
      ∃ chain walk, s.SuperChain d.name chain ∧ s.interfacesOfChain chain = .ok walk ∧
        set = (ObligationSet.ofList (abstractMembers (firstByKey MethodDecl.signature
          (chain.flatMap TypeDecl.chainMethods ++ walk.flatMap TypeDecl.instanceMethods)))).extend
          (abstractMembers (chain.flatMap TypeDecl.methods)) := by
  unfold obligations
  simp only [Outcome.bind_eq_ok_iff, members_eq_ok_iff d.declared_target]
  constructor
  · rintro ⟨_, ⟨chain, walk, isChain, ok, rfl⟩, _, okTargets, _, okMethods, rest⟩
    obtain rfl := Except.ok.inj (okTargets.symm.trans (ancestors_of_superChain built found isChain))
    obtain rfl := Except.ok.inj (okMethods.symm.trans (declaredBy_of_superChain isChain))
    exact ⟨chain, walk, isChain, ok, (Except.ok.inj rest).symm⟩
  · rintro ⟨chain, walk, isChain, ok, rfl⟩
    exact ⟨_, ⟨chain, walk, isChain, ok, rfl⟩, _, ancestors_of_superChain built found isChain, _,
      declaredBy_of_superChain isChain, rfl⟩

theorem obligations_eq_error_iff (built : s.OfCatalogs) (found : s.find? d.name = some d)
    {e : Failure} : s.obligations d.target = .error e ↔ s.members d.target = .error e := by
  rcases Outcome.ok_or_error (s.members d.target) with ⟨ms, ok⟩ | ⟨e', error⟩
  · obtain ⟨chain, walk, isChain, okWalk, -⟩ := (members_eq_ok_iff d.declared_target).mp ok
    rw [(obligations_eq_ok_iff built found).mpr ⟨chain, walk, isChain, okWalk, rfl⟩, ok]
    simp
  · rw [obligations, error]
    simp [bind, Except.bind]

theorem visibleAbstract_iff {chain walk : List TypeDecl}
    (ok : s.interfacesOfChain chain = .ok walk) {k : Signature} :
    (∃ m ∈ firstByKey MethodDecl.signature
        (chain.flatMap TypeDecl.chainMethods ++ walk.flatMap TypeDecl.instanceMethods),
      m.signature = k ∧ m.isAbstract) ↔
      ∃ m, s.firstMet chain k = some m ∧ m.isAbstract := by
  simp only [mem_visibleMethods_iff, ← visible?_eq_firstMet ok]
  constructor
  · rintro ⟨m, seen, rfl, bodiless⟩
    exact ⟨m, seen, bodiless⟩
  · rintro ⟨m, seen, bodiless⟩
    have key := signature_of_visible? seen
    exact ⟨m, key.symm ▸ seen, key, bodiless⟩

end Obligations

section Resolved

variable {name : String} {t : Target} {set : ObligationSet}

theorem contains_obligations_iff (built : s.OfCatalogs) (resolved : s.resolve name = .ok t)
    (declared : t.shape = .classType ∨ t.shape = .interfaceType) (ok : s.obligations t = .ok set) :
    ∃ chain walk, s.SuperChain t.name chain ∧ s.interfacesOfChain chain = .ok walk ∧
      ∀ k, set.contains k ↔ (∃ m, s.firstMet chain k = some m ∧ m.isAbstract) ∨
        ∃ c ∈ chain, c.DeclaresAbstract k := by
  obtain ⟨d, found, rfl⟩ := resolve_declared resolved declared
  obtain ⟨chain, walk, isChain, okWalk, rfl⟩ := (obligations_eq_ok_iff built found).mp ok
  refine ⟨chain, walk, isChain, okWalk, ?_⟩
  intro k
  have declaredOnChain : (∃ m ∈ chain.flatMap TypeDecl.methods, m.signature = k ∧ m.isAbstract) ↔
      ∃ c ∈ chain, c.DeclaresAbstract k := by
    constructor
    · rintro ⟨m, hm, bodiless⟩
      obtain ⟨c, hc, hm⟩ := List.mem_flatMap.mp hm
      exact ⟨c, hc, m, hm, bodiless⟩
    · rintro ⟨c, hc, m, hm, bodiless⟩
      exact ⟨m, List.mem_flatMap.mpr ⟨c, hc, hm⟩, bodiless⟩
  rw [ObligationSet.contains_extend, ObligationSet.contains_ofList, mem_abstractMembers_iff,
    mem_abstractMembers_iff, visibleAbstract_iff okWalk, declaredOnChain]

/-- The target has the interface `i`: links lead from its chain to `i`, or the target is `i`. -/
def HasInterface (s : Store) (t : Target) (i : TypeDecl) : Prop :=
  s.find? i.name = some i ∧ (s.InterfaceOf t.name i.name ∨ t.isInterface ∧ i.name = t.name)

/-- An instance method of an interface that the target has never goes unseen: some method with its
signature is met. -/
theorem firstMet_isSome {chain walk : List TypeDecl} {i : TypeDecl} {m : MethodDecl}
    (resolved : s.resolve name = .ok t) (isChain : s.SuperChain t.name chain)
    (okWalk : s.interfacesOfChain chain = .ok walk) (has : s.HasInterface t i)
    (hm : m ∈ i.methods) (instanceMethod : ¬ m.modifiers.has .static) :
    (s.firstMet chain m.signature).isSome := by
  rw [← visible?_eq_firstMet okWalk, visible?_isSome_iff isChain okWalk]
  obtain ⟨found, reached | ⟨isInterface, same⟩⟩ := has
  · exact .inr ⟨i.name, i, reached, found,
      TypeDecl.inheritable?_isSome_iff.mpr ⟨m, hm, rfl, instanceMethod⟩⟩
  · have shape : t.shape = .interfaceType := by simpa [Target.isInterface] using isInterface
    obtain ⟨d, found', rfl⟩ := resolve_declared resolved (.inr shape)
    obtain rfl := Option.some.inj (found.symm.trans (same ▸ found'))
    have kind := i.isInterface_target.mp isInterface
    exact .inl ⟨i, isChain.mem_iff.mpr ⟨.refl, found⟩,
      TypeDecl.shown?_isSome_iff.mpr ⟨m, hm, rfl, .inr kind⟩⟩

/-- An abstract method of an interface becomes an obligation exactly if the first method met in its
place has no body either, or some declaration on the chain is abstract. -/
theorem interface_obligation_iff (built : s.OfCatalogs) (resolved : s.resolve name = .ok t)
    (declared : t.shape = .classType ∨ t.shape = .interfaceType) (ok : s.obligations t = .ok set) :
    ∃ chain, s.SuperChain t.name chain ∧
      ∀ i, s.HasInterface t i → ∀ m ∈ i.methods, m.isAbstract →
        (set.contains m.signature ↔
          (∃ first, s.firstMet chain m.signature = some first ∧ first.isAbstract) ∨
            ∃ c ∈ chain, c.DeclaresAbstract m.signature) ∧
        (¬ m.modifiers.has .static → (s.firstMet chain m.signature).isSome) := by
  obtain ⟨chain, walk, isChain, okWalk, member⟩ :=
    contains_obligations_iff built resolved declared ok
  refine ⟨chain, isChain, ?_⟩
  intro i has m hm _
  constructor
  · exact member m.signature
  · intro instanceMethod
    exact firstMet_isSome resolved isChain okWalk has hm instanceMethod

end Resolved

/-- An interface with a method that has a body, one with the same method but no body, and one that
extends both. -/
def logged : TypeDecl :=
  { name := "a.Logged", kind := .interfaceType,
    methods := [{ name := "close", isDefault := true }] }

def resource : TypeDecl :=
  { name := "a.Resource", kind := .interfaceType, methods := [{ name := "close" }] }

def channel : TypeDecl :=
  { name := "a.Channel", kind := .interfaceType, interfaces := ["a.Logged", "a.Resource"] }

def channelStore : Store := empty.insert ⟨[logged, resource, channel]⟩

theorem obligations_channelStore :
    channelStore.obligations channel.normalize.target = .ok .empty := by
  cbv

theorem channelStore_interface_obligation :
    channelStore.OfCatalogs ∧ channelStore.resolve "a.Channel" = .ok channel.normalize.target ∧
    channelStore.obligations channel.normalize.target = .ok .empty ∧
    ∃ chain, channelStore.SuperChain channel.normalize.target.name chain ∧
      ∀ i, channelStore.HasInterface channel.normalize.target i → ∀ m ∈ i.methods, m.isAbstract →
        (ObligationSet.empty.contains m.signature ↔
          (∃ first, channelStore.firstMet chain m.signature = some first ∧ first.isAbstract) ∨
            ∃ c ∈ chain, c.DeclaresAbstract m.signature) ∧
        (¬ m.modifiers.has .static → (channelStore.firstMet chain m.signature).isSome) := by
  have built : channelStore.OfCatalogs := .insert _ .empty
  have resolved : channelStore.resolve "a.Channel" = .ok channel.normalize.target := rfl
  exact ⟨built, resolved, obligations_channelStore,
    interface_obligation_iff built resolved (.inr rfl) obligations_channelStore⟩

theorem find?_channelStore {n : String} {d : TypeDecl} (found : channelStore.find? n = some d) :
    d = channel.normalize ∨ d = resource.normalize ∨ d = logged.normalize := by
  have mem : d ∈ channelStore.decls := List.mem_of_find?_eq_some found
  have decls : channelStore.decls = [channel.normalize, resource.normalize, logged.normalize] := rfl
  simpa [decls] using mem

theorem interfaceLink_channelStore {n p : String} (link : channelStore.InterfaceLink n p) :
    n = "a.Channel" ∧ p ∈ ["a.Logged", "a.Resource"] := by
  obtain ⟨d, found, hp⟩ := link
  obtain rfl := name_of_find? found
  rcases find?_channelStore found with rfl | rfl | rfl
  · exact ⟨rfl, hp⟩
  · cases hp
  · cases hp

theorem transGen_channelStore {n p : String}
    (path : Relation.TransGen channelStore.InterfaceLink n p) :
    n = "a.Channel" ∧ p ∈ ["a.Logged", "a.Resource"] := by
  obtain ⟨_, first, _⟩ := Relation.TransGen.head'_iff.mp path
  obtain ⟨_, _, last⟩ := Relation.TransGen.tail'_iff.mp path
  exact ⟨(interfaceLink_channelStore first).1, (interfaceLink_channelStore last).2⟩

/-- The body in the one interface hides that the other one lacks it, although neither of the two
extends the other and the links form no cycle. -/
theorem inherited_abstract_method_hidden :
    ¬ ∀ (s : Store) (name : String) (t : Target) (set : ObligationSet) (chain : List TypeDecl),
      s.OfCatalogs → (∀ n, ¬ Relation.TransGen s.InterfaceLink n n) → s.resolve name = .ok t →
      t.shape = .classType ∨ t.shape = .interfaceType → s.obligations t = .ok set →
      s.SuperChain t.name chain →
      ∀ i, s.HasInterface t i → i.kind = .interfaceType → ∀ m ∈ i.methods, m.isAbstract →
        (∀ c ∈ chain, ∀ m' ∈ c.methods, m'.signature = m.signature →
          ¬ m'.modifiers.has .publicAccess) →
        (∀ j, s.HasInterface t j → Relation.TransGen s.InterfaceLink j.name i.name →
          ∀ m' ∈ j.methods, m'.signature = m.signature →
            m'.isAbstract ∨ m'.modifiers.has .static ∨ m'.modifiers.has .privateAccess) →
        set.contains m.signature := by
  intro claim
  have acyclic : ∀ n, ¬ Relation.TransGen channelStore.InterfaceLink n n := by
    intro n path
    obtain ⟨rfl, circular⟩ := transGen_channelStore path
    simp at circular
  have isChain : channelStore.SuperChain "a.Channel" [channel.normalize] := .top rfl rfl
  have has : channelStore.HasInterface channel.normalize.target resource.normalize :=
    ⟨rfl, .inl ⟨"a.Channel", .refl, .single ⟨channel.normalize, rfl, by decide⟩⟩⟩
  have required := claim channelStore "a.Channel" channel.normalize.target .empty
    [channel.normalize] (.insert _ .empty) acyclic rfl (.inr rfl) obligations_channelStore isChain
    resource.normalize has rfl (MethodDecl.inInterface { name := "close" }) (by decide) (by decide)
    ?_ ?_
  · exact ObligationSet.contains_empty required
  · intro c hc m' hm'
    obtain rfl := List.mem_singleton.mp hc
    cases hm'
  · intro j ⟨found, _⟩ path m' hm'
    have start := (transGen_channelStore path).1
    rcases find?_channelStore found with rfl | rfl | rfl
    · cases hm'
    · exact absurd path (acyclic _)
    · exact absurd start (by decide)

section Supplied

variable {name : String} {t : Target} {set : ObligationSet}

/-- Where no declaration on the chain is abstract, an abstract method is met first only if the chain
shows none and the search through the interfaces comes to it. -/
theorem firstMet_abstract_iff {chain : List TypeDecl} {k : Signature}
    (supplied : ∀ c ∈ chain, ¬ c.DeclaresAbstract k) :
    (∃ m, s.firstMet chain k = some m ∧ m.isAbstract) ↔
      (∀ c ∈ chain, c.shown? k = none) ∧
        ∃ m, s.firstInherited k (chainInterfaces chain)
          (chain.flatMap TypeDecl.interfaces) = some m ∧ m.isAbstract := by
  unfold firstMet
  cases shows : chain.findSome? (·.shown? k) with
  | none =>
    have hidden : ∀ c ∈ chain, c.shown? k = none := List.findSome?_eq_none_iff.mp shows
    rw [Option.none_or, and_iff_right hidden]
  | some m =>
    obtain ⟨c, hc, hm⟩ := List.exists_of_findSome?_eq_some shows
    obtain ⟨mem, key, _⟩ := TypeDecl.shown?_eq_some hm
    rw [Option.some_or]
    constructor
    · rintro ⟨_, ⟨⟩, bodiless⟩
      exact absurd ⟨m, mem, key, bodiless⟩ (supplied c hc)
    · rintro ⟨hidden, _⟩
      rw [hidden c hc] at hm
      cases hm

/-- A class owes no method with signature `k` exactly if no declaration on its chain is abstract,
however near a body is, and the chain shows a public method or the search through the interfaces
does not come to an abstract one first. -/
theorem not_obligation_iff (built : s.OfCatalogs) (resolved : s.resolve name = .ok t)
    (declared : t.shape = .classType) (ok : s.obligations t = .ok set) :
    ∃ chain, s.SuperChain t.name chain ∧
      ∀ k, ¬ set.contains k ↔
        (∀ c ∈ chain, ¬ c.DeclaresAbstract k) ∧
        ((∃ c ∈ chain, (c.shown? k).isSome) ∨
          ∀ m, s.firstInherited k (chainInterfaces chain)
            (chain.flatMap TypeDecl.interfaces) = some m → ¬ m.isAbstract) := by
  obtain ⟨chain, _, isChain, _, member⟩ :=
    contains_obligations_iff built resolved (.inl declared) ok
  refine ⟨chain, isChain, ?_⟩
  intro k
  have shows : (∃ c ∈ chain, (c.shown? k).isSome) ↔ ¬ ∀ c ∈ chain, c.shown? k = none := by
    simp [Option.isSome_iff_ne_none]
  rw [member, not_or, and_comm, not_exists]
  simp only [not_and]
  apply and_congr_right
  intro supplied
  rw [firstMet_abstract_iff supplied, shows, Classical.not_and_iff_not_or_not]
  simp

end Supplied

/-- A class with an abstract method and an abstract subclass that supplies its body for good. -/
def rootDecl : TypeDecl := { name := rootClass }

def shape : TypeDecl :=
  { name := "a.Shape", modifiers := .ofList [.publicAccess, .abstract],
    methods := [{ name := "area", modifiers := .ofList [.publicAccess, .abstract] }] }

def square : TypeDecl :=
  { name := "a.Square", modifiers := .ofList [.publicAccess, .abstract],
    superclass := some "a.Shape",
    methods := [{ name := "area", modifiers := .ofList [.publicAccess, .final] }] }

def squareStore : Store := empty.insert ⟨[rootDecl, shape, square]⟩

def squareChain : List TypeDecl := [square.normalize, shape.normalize, rootDecl.normalize]

def squareObligations : ObligationSet :=
  .ofList [⟨"area", [], .void, [], .ofList [.publicAccess, .abstract]⟩]

theorem superChain_squareStore : squareStore.SuperChain "a.Square" squareChain :=
  .link rfl rfl (.link rfl rfl (.top rfl rfl))

theorem obligations_squareStore :
    squareStore.obligations square.normalize.target = .ok squareObligations := by
  have found : squareStore.find? square.normalize.name = some square.normalize := rfl
  have noInterfaces : squareStore.interfacesOfChain squareChain = .ok [] :=
    interfacesOfChain_of_empty (by decide)
  refine (obligations_eq_ok_iff (.insert _ .empty) found).mpr
    ⟨squareChain, [], superChain_squareStore, noInterfaces, ?_⟩
  rfl

theorem squareStore_not_obligation :
    squareStore.OfCatalogs ∧ squareStore.resolve "a.Square" = .ok square.normalize.target ∧
    square.normalize.target.shape = .classType ∧
    squareStore.obligations square.normalize.target = .ok squareObligations ∧
    ∃ chain, squareStore.SuperChain square.normalize.target.name chain ∧
      ∀ k, ¬ squareObligations.contains k ↔
        (∀ c ∈ chain, ¬ c.DeclaresAbstract k) ∧
        ((∃ c ∈ chain, (c.shown? k).isSome) ∨
          ∀ m, squareStore.firstInherited k (chainInterfaces chain)
            (chain.flatMap TypeDecl.interfaces) = some m → ¬ m.isAbstract) := by
  have built : squareStore.OfCatalogs := .insert _ .empty
  have resolved : squareStore.resolve "a.Square" = .ok square.normalize.target := rfl
  exact ⟨built, resolved, rfl, obligations_squareStore,
    not_obligation_iff built resolved rfl obligations_squareStore⟩

/-- The second reason for an obligation takes back a body that a nearer declaration supplies, here
one that no subclass may override. -/
theorem supplied_method_required :
    ¬ ∀ (s : Store) (name : String) (t : Target) (set : ObligationSet) (chain : List TypeDecl),
      s.OfCatalogs → s.resolve name = .ok t → t.shape = .classType → s.obligations t = .ok set →
      s.SuperChain t.name chain →
      ∀ k m, (chain.findSome? fun c => c.methods.find? fun m =>
          m.signature = k ∧ ¬ m.modifiers.has .privateAccess) = some m →
        ¬ m.isAbstract → ¬ set.contains k := by
  intro claim
  exact claim squareStore "a.Square" square.normalize.target squareObligations squareChain
    (.insert _ .empty) rfl rfl obligations_squareStore superChain_squareStore ⟨"area", []⟩
    { name := "area", modifiers := .ofList [.publicAccess, .final] } (by decide) (by decide)
    (by decide)

end Store
end JavaStubs
