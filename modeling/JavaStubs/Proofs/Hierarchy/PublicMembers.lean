import JavaStubs.Proofs.Catalog.Normalization
import JavaStubs.Proofs.Catalog.OfCatalogs
import JavaStubs.Proofs.Hierarchy.InterfaceSearch

/-!
# Public members

The members of a type are meant to be public methods, with the static methods of no interface but
the type itself. The query keeps out non-public methods of classes, and static methods of the
interfaces that links lead to. A private method of an interface passes, and a static one where an
interface stands on the chain as the superclass of a class. So the members are what they are meant
to be exactly if methods of these two kinds are not the first that are met.
-/

namespace JavaStubs
namespace Store

variable {s : Store} {name : String} {chain walk : List TypeDecl}

/-- Whatever the declaration of a type lists as an interface is one, if it is declared at all. -/
def LinksToInterfaces (s : Store) : Prop :=
  ∀ n p d, s.InterfaceLink n p → s.find? p = some d → d.kind = .interfaceType

/-- `i` is one of the interfaces that the type `name` with the superclass chain `chain` has to do
with: on the chain itself, or behind interface links that start there. -/
def InterfaceInSight (s : Store) (name : String) (chain : List TypeDecl) (i : TypeDecl) : Prop :=
  i.kind = .interfaceType ∧ (i ∈ chain ∨ s.find? i.name = some i ∧ s.InterfaceOf name i.name)

/-- The methods `ms` of the type `name` are public. Static ones come from classes or from `name`
itself, and no public instance method of an interface is hidden by one that is not public. -/
structure PublicMembers (s : Store) (name : String) (chain : List TypeDecl)
    (ms : List MethodDecl) : Prop where
  isPublic : ∀ m ∈ ms, m.modifiers.has .publicAccess
  ownStatics : ∀ m ∈ ms, m.modifiers.has .static → ∃ d ∈ chain, d.shown? m.signature = some m ∧
    (d.kind = .interfaceType → d.name = name)
  unhidden : ∀ i, s.InterfaceInSight name chain i → ∀ m ∈ i.methods,
    m.modifiers.has .publicAccess → ¬ m.modifiers.has .static →
    ∃ m' ∈ ms, m'.signature = m.signature ∧ m'.modifiers.has .publicAccess

/-- No private method of an interface is the first one met with its signature, and a static method
of an interface on the chain, other than `name` itself, always has a method of a class before it. -/
structure NothingExposed (s : Store) (name : String) (chain : List TypeDecl) : Prop where
  noPrivate : ∀ i, s.InterfaceInSight name chain i → ∀ m ∈ i.methods,
    m.modifiers.has .privateAccess → ¬ m.modifiers.has .publicAccess →
    s.firstMet chain m.signature ≠ some m
  noStatic : ∀ i ∈ chain, i.kind = .interfaceType → i.name ≠ name →
    ∀ k m, i.shown? k = some m → m.modifiers.has .static →
    ∃ c ∈ chain, c.kind ≠ .interfaceType ∧ (c.shown? k).isSome

theorem OfCatalogs.public_or_private (built : s.OfCatalogs) {n : String} {d : TypeDecl}
    (found : s.find? n = some d) (isInterface : d.kind = .interfaceType) {m : MethodDecl}
    (hm : m ∈ d.methods) : m.modifiers.has .publicAccess ∨ m.modifiers.has .privateAccess := by
  obtain ⟨e, rfl⟩ := built.normalized found
  rw [TypeDecl.kind_normalize] at isInterface
  rw [TypeDecl.normalize_of_interface isInterface] at hm
  obtain ⟨m, _, rfl⟩ := List.mem_map.mp hm
  rcases m.interfaceForm_inInterface.access with ⟨hidden, same⟩ | isPublic
  · exact .inr (same ▸ hidden)
  · exact .inl isPublic

/-- An interface has no superclass, so nothing stands behind it on a chain. -/
theorem SuperChain.pairwise_notInterface (built : s.OfCatalogs)
    (isChain : s.SuperChain name chain) : chain.Pairwise fun c _ => c.kind ≠ .interfaceType := by
  induction isChain with
  | top => exact List.pairwise_singleton _ _
  | link found next _ ih =>
    refine List.pairwise_cons.mpr ⟨fun _ _ isInterface => ?_, ih⟩
    rw [built.superclass_eq_none found isInterface] at next
    cases next

/-- An interface on a chain is the last declaration of it and the only interface. -/
theorem SuperChain.interface_last (built : s.OfCatalogs) {before after : List TypeDecl}
    {i : TypeDecl} (isChain : s.SuperChain name (before ++ i :: after))
    (isInterface : i.kind = .interfaceType) :
    (∀ c ∈ before, c.kind ≠ .interfaceType) ∧ after = [] := by
  obtain ⟨_, behind, ahead⟩ := List.pairwise_append.mp (isChain.pairwise_notInterface built)
  constructor
  · exact fun c hc => ahead c hc i List.mem_cons_self
  · rw [List.eq_nil_iff_forall_not_mem]
    exact fun c hc => (List.pairwise_cons.mp behind).1 c hc isInterface

theorem SuperChain.interface_unique (built : s.OfCatalogs) (isChain : s.SuperChain name chain)
    {i j : TypeDecl} (hi : i ∈ chain) (hj : j ∈ chain) (iInterface : i.kind = .interfaceType)
    (jInterface : j.kind = .interfaceType) : i = j := by
  obtain ⟨before, after, rfl⟩ := List.append_of_mem hi
  obtain ⟨classes, rfl⟩ := isChain.interface_last built iInterface
  rcases List.mem_append.mp hj with hj | hj
  · exact absurd jInterface (classes j hj)
  · exact (List.mem_singleton.mp hj).symm

theorem SuperChain.shown?_eq_none_of_interface (built : s.OfCatalogs)
    {before after : List TypeDecl} {i : TypeDecl}
    (isChain : s.SuperChain name (before ++ i :: after)) (isInterface : i.kind = .interfaceType)
    {k : Signature} (first : ∀ d ∈ before, d.shown? k = none) :
    ∀ c ∈ before ++ i :: after, c.kind ≠ .interfaceType → c.shown? k = none := by
  obtain ⟨_, rfl⟩ := isChain.interface_last built isInterface
  intro c hc isClass
  rcases List.mem_append.mp hc with hc | hc
  · exact first c hc
  · rw [List.mem_singleton.mp hc] at isClass
    exact absurd isInterface isClass

theorem interfaceInSight_of_walk (links : s.LinksToInterfaces) (isChain : s.SuperChain name chain)
    (ok : s.interfacesOfChain chain = .ok walk) {i : TypeDecl} (h : i ∈ walk) :
    s.InterfaceInSight name chain i := by
  obtain ⟨⟨m, up, path⟩, found⟩ := interfaceOf_of_walk isChain ok h
  obtain ⟨n, _, last⟩ := Relation.TransGen.tail'_iff.mp path
  exact ⟨links n i.name i last found, .inr ⟨found, m, up, path⟩⟩

theorem InterfaceInSight.found {i : TypeDecl} (h : s.InterfaceInSight name chain i)
    (isChain : s.SuperChain name chain) : s.find? i.name = some i := by
  rcases h.2 with onChain | ⟨found, _⟩
  · exact (isChain.mem_iff.mp onChain).2
  · exact found

theorem public_of_visible? (built : s.OfCatalogs) (links : s.LinksToInterfaces)
    (isChain : s.SuperChain name chain) (ok : s.interfacesOfChain chain = .ok walk)
    (h : s.NothingExposed name chain) {m : MethodDecl}
    (seen : visible? chain walk m.signature = some m) : m.modifiers.has .publicAccess := by
  have ofInterface : ∀ i, s.InterfaceInSight name chain i → m ∈ i.methods →
      m.modifiers.has .publicAccess := by
    intro i sight hm
    by_contra notPublic
    have isPrivate :=
      (built.public_or_private (sight.found isChain) sight.1 hm).resolve_left notPublic
    rw [visible?_eq_firstMet ok] at seen
    exact h.noPrivate i sight m hm isPrivate notPublic seen
  rcases Option.or_eq_some_iff.mp seen with shown | ⟨_, passed⟩
  · obtain ⟨d, hd, shown⟩ := List.exists_of_findSome?_eq_some shown
    obtain ⟨hm, _, isPublic | isInterface⟩ := TypeDecl.shown?_eq_some shown
    · exact isPublic
    · exact ofInterface d ⟨isInterface, .inl hd⟩ hm
  · obtain ⟨i, hi, passes⟩ := List.exists_of_findSome?_eq_some passed
    exact ofInterface i (interfaceInSight_of_walk links isChain ok hi)
      (TypeDecl.inheritable?_eq_some passes).1

/-- A public instance method of an interface in sight never goes unseen. -/
theorem visible?_isSome_of_interface (isChain : s.SuperChain name chain)
    (ok : s.interfacesOfChain chain = .ok walk) {i : TypeDecl}
    (sight : s.InterfaceInSight name chain i) {m : MethodDecl} (hm : m ∈ i.methods)
    (isPublic : m.modifiers.has .publicAccess) (isInstance : ¬ m.modifiers.has .static) :
    (visible? chain walk m.signature).isSome := by
  rw [visible?_isSome_iff isChain ok]
  rcases sight.2 with onChain | ⟨found, reached⟩
  · exact .inl ⟨i, onChain, TypeDecl.shown?_isSome_iff.mpr ⟨m, hm, rfl, .inl isPublic⟩⟩
  · exact .inr ⟨i.name, i, reached, found,
      TypeDecl.inheritable?_isSome_iff.mpr ⟨m, hm, rfl, isInstance⟩⟩

theorem findSome?_shown?_of_static {m : MethodDecl}
    (seen : visible? chain walk m.signature = some m) (isStatic : m.modifiers.has .static) :
    chain.findSome? (·.shown? m.signature) = some m := by
  rcases Option.or_eq_some_iff.mp seen with shown | ⟨_, passed⟩
  · exact shown
  · obtain ⟨_, _, passes⟩ := List.exists_of_findSome?_eq_some passed
    exact absurd isStatic (TypeDecl.inheritable?_eq_some passes).2.2

theorem visible?_of_interface (built : s.OfCatalogs) (isChain : s.SuperChain name chain)
    {i : TypeDecl} (hi : i ∈ chain) (isInterface : i.kind = .interfaceType) {k : Signature}
    {m : MethodDecl} (shown : i.shown? k = some m)
    (noClass : ∀ c ∈ chain, c.kind ≠ .interfaceType → c.shown? k = none) :
    visible? chain walk k = some m := by
  have shows : (chain.findSome? (·.shown? k)).isSome := by
    rw [List.findSome?_isSome_iff]
    exact ⟨i, hi, by rw [shown, Option.isSome_some]⟩
  obtain ⟨m', first⟩ := Option.isSome_iff_exists.mp shows
  obtain ⟨d, hd, shown'⟩ := List.exists_of_findSome?_eq_some first
  have dInterface : d.kind = .interfaceType := by
    by_contra isClass
    rw [noClass d hd isClass] at shown'
    cases shown'
  obtain rfl := isChain.interface_unique built hd hi dInterface isInterface
  rw [visible?, first, Option.some_or, ← shown', shown]

section Members

variable {t : Target} {ms : List MethodDecl}

theorem PublicMembers.nothingExposed (built : s.OfCatalogs) (isChain : s.SuperChain name chain)
    (ok : s.interfacesOfChain chain = .ok walk)
    (returned : ∀ m, m ∈ ms ↔ visible? chain walk m.signature = some m)
    (h : s.PublicMembers name chain ms) : s.NothingExposed name chain := by
  constructor
  case noPrivate =>
    intro i _ m _ _ notPublic first
    rw [← visible?_eq_firstMet ok] at first
    exact notPublic (h.isPublic m ((returned m).mpr first))
  case noStatic =>
    intro i hi isInterface other k m shown isStatic
    by_contra noClass
    -- With no class in front of it, the interface is what the static method is returned from.
    replace noClass : ∀ c ∈ chain, c.kind ≠ .interfaceType → c.shown? k = none := by
      simpa using noClass
    have seen : visible? chain walk k = some m :=
      visible?_of_interface built isChain hi isInterface shown noClass
    obtain rfl := signature_of_visible? seen
    obtain ⟨d, hd, shows, own⟩ := h.ownStatics m ((returned m).mpr seen) isStatic
    by_cases dInterface : d.kind = .interfaceType
    · obtain rfl := isChain.interface_unique built hd hi dInterface isInterface
      exact other (own dInterface)
    · rw [noClass d hd dInterface] at shows
      cases shows

theorem NothingExposed.publicMembers (built : s.OfCatalogs) (links : s.LinksToInterfaces)
    (isChain : s.SuperChain name chain) (ok : s.interfacesOfChain chain = .ok walk)
    (returned : ∀ m, m ∈ ms ↔ visible? chain walk m.signature = some m)
    (h : s.NothingExposed name chain) : s.PublicMembers name chain ms := by
  have isPublic : ∀ m ∈ ms, m.modifiers.has .publicAccess := fun m hm =>
    public_of_visible? built links isChain ok h ((returned m).mp hm)
  constructor
  case isPublic => exact isPublic
  case ownStatics =>
    intro m hm isStatic
    have first := findSome?_shown?_of_static ((returned m).mp hm) isStatic
    obtain ⟨before, d, after, rfl, shown, hidden⟩ := List.findSome?_eq_some_iff.mp first
    have hd : d ∈ before ++ d :: after := List.mem_append_right _ List.mem_cons_self
    refine ⟨d, hd, shown, fun isInterface => ?_⟩
    -- The first declaration to show the signature is an interface, so no class on the chain does.
    by_contra other
    obtain ⟨c, hc, isClass, shows⟩ := h.noStatic d hd isInterface other _ m shown isStatic
    rw [isChain.shown?_eq_none_of_interface built isInterface hidden c hc isClass] at shows
    cases shows
  case unhidden =>
    intro i sight m hm mPublic isInstance
    obtain ⟨m', seen⟩ := Option.isSome_iff_exists.mp
      (visible?_isSome_of_interface isChain ok sight hm mPublic isInstance)
    have key := signature_of_visible? seen
    have hm' : m' ∈ ms := (returned m').mpr (key.symm ▸ seen)
    exact ⟨m', hm', key, isPublic m' hm'⟩

/-- The members of a type are public methods, with no static method of another interface, exactly if
nothing of an interface that is to stay out is the first that is met. -/
theorem publicMembers_iff (built : s.OfCatalogs) (links : s.LinksToInterfaces)
    (declared : t.shape = .classType ∨ t.shape = .interfaceType) (ok : s.members t = .ok ms) :
    ∃ chain, s.SuperChain t.name chain ∧
      (s.PublicMembers t.name chain ms ↔ s.NothingExposed t.name chain) := by
  obtain ⟨chain, walk, isChain, okWalk, rfl⟩ := (members_eq_ok_iff declared).mp ok
  refine ⟨chain, isChain, fun h => ?_, fun h => ?_⟩
  · exact h.nothingExposed built isChain okWalk fun _ => mem_visibleMethods_iff
  · exact h.publicMembers built links isChain okWalk fun _ => mem_visibleMethods_iff

end Members

/-- An interface with a private method, one with a public method of the same signature, and one that
extends both. -/
def cache : TypeDecl :=
  { name := "a.Cache", kind := .interfaceType,
    methods := [{ name := "reset", modifiers := .ofList [.privateAccess] }] }

def meter : TypeDecl :=
  { name := "a.Meter", kind := .interfaceType, methods := [{ name := "reset" }] }

def gauge : TypeDecl :=
  { name := "a.Gauge", kind := .interfaceType, interfaces := ["a.Cache", "a.Meter"] }

def gaugeStore : Store := empty.insert ⟨[cache, meter, gauge]⟩

theorem linksToInterfaces_gaugeStore : gaugeStore.LinksToInterfaces := by
  intro _ p d _ found
  have interfaces : ∀ d ∈ gaugeStore.decls, d.kind = .interfaceType := by decide
  exact interfaces d (List.mem_of_find?_eq_some found)

theorem members_gaugeStore : gaugeStore.members gauge.normalize.target = .ok cache.methods := by
  cbv

theorem gaugeStore_publicMembers :
    gaugeStore.OfCatalogs ∧ gaugeStore.LinksToInterfaces ∧
    gauge.normalize.target.shape = .interfaceType ∧
    gaugeStore.members gauge.normalize.target = .ok cache.methods ∧
    ∃ chain, gaugeStore.SuperChain gauge.normalize.target.name chain ∧
      (gaugeStore.PublicMembers gauge.normalize.target.name chain cache.methods ↔
        gaugeStore.NothingExposed gauge.normalize.target.name chain) := by
  have built : gaugeStore.OfCatalogs := .insert _ .empty
  exact ⟨built, linksToInterfaces_gaugeStore, rfl, members_gaugeStore,
    publicMembers_iff built linksToInterfaces_gaugeStore (.inr rfl) members_gaugeStore⟩

/-- The private method of the one interface is returned, in place of the public one of the other. -/
theorem private_member_returned :
    ¬ ∀ (s : Store) (name : String) (t : Target) (ms : List MethodDecl), s.OfCatalogs →
      s.LinksToInterfaces → s.resolve name = .ok t →
      t.shape = .classType ∨ t.shape = .interfaceType → s.members t = .ok ms →
      ∀ m ∈ ms, m.modifiers.has .publicAccess := by
  intro claim
  have isPublic := claim gaugeStore "a.Gauge" gauge.normalize.target cache.methods
    (.insert _ .empty) linksToInterfaces_gaugeStore rfl (.inr rfl) members_gaugeStore
  revert isPublic
  decide

end Store
end JavaStubs
