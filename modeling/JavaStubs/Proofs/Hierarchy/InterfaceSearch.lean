import JavaStubs.Proofs.Hierarchy.InheritedMembers

/-!
# Depth-first search for an inherited method

The walk over interfaces visits every declaration once, whichever path led to it first. For the
question which method of a signature comes first that makes no difference: a plain depth-first
search along all paths, without a record of what has been visited, finds the same method.
-/

namespace JavaStubs
namespace Store

variable {s : Store}

/-- The first method with signature `k` that a depth-first search meets. It goes through the names
in order, takes what a declaration itself passes on before it looks into the interfaces of that
declaration, and only refrains from coming back to a name on its path. -/
def firstInherited (s : Store) (k : Signature) (path names : List String) : Option MethodDecl :=
  match names with
  | [] => none
  | name :: later =>
    if new : name ∈ path then s.firstInherited k path later
    else match h : s.find? name with
      | none => s.firstInherited k path later
      | some d =>
        have := unmet_length_lt h new
        ((d.inheritable? k).or (s.firstInherited k (name :: path) d.interfaces)).or
          (s.firstInherited k path later)
termination_by ((s.unmet path).length, names.length)

/-- A walk through two lists of names is a walk through the first one, followed by one through the
second that passes over what the first has collected. -/
theorem interfacesFrom_append (met names later : List String) :
    s.interfacesFrom met (names ++ later) = (do
      let first ← s.interfacesFrom met names
      let rest ← s.interfacesFrom ((first.map TypeDecl.name).reverse ++ met) later
      return first ++ rest) := by
  fun_induction interfacesFrom s met names with
  | case1 met =>
    cases h : s.interfacesFrom met later <;> simp [h, bind, Except.bind, pure, Except.pure]
  | case2 met name more old ih => rw [List.cons_append, interfacesFrom_of_met old, ih]
  | case3 met name more new missing =>
    rw [List.cons_append, interfacesFrom_of_undeclared new missing]
    rfl
  | case4 met name more new d found _ ih =>
    rw [List.append_assoc] at ih
    rw [List.cons_append, interfacesFrom_of_new new found, ih]
    cases hf : s.interfacesFrom (name :: met) (d.interfaces ++ more) with
    | error e => rfl
    | ok first =>
      simp only [bind, Except.bind, Except.map, List.map_cons, List.reverse_cons,
        List.append_assoc, List.singleton_append, name_of_find? found]
      cases s.interfacesFrom ((first.map TypeDecl.name).reverse ++ name :: met) later <;> rfl

/-- Of the names in `met`, those that are not on the path were searched in vain, together with all
that they lead to. -/
structure SearchedInVain (s : Store) (k : Signature) (path met : List String) : Prop where
  path_met : ∀ n ∈ path, n ∈ met
  barren : ∀ n ∈ met, n ∉ path →
    ∃ d, s.find? n = some d ∧ d.inheritable? k = none ∧ ∀ p ∈ d.interfaces, p ∈ met

namespace SearchedInVain

variable {k : Signature} {path met : List String}

theorem step (h : s.SearchedInVain k path met) (name : String) :
    s.SearchedInVain k (name :: path) (name :: met) where
  path_met n hn := by
    rcases List.mem_cons.mp hn with rfl | hn
    · exact List.mem_cons_self
    · exact List.mem_cons_of_mem _ (h.path_met n hn)
  barren n hn off := by
    rw [List.mem_cons, not_or] at off
    obtain ⟨d, found, vain, closed⟩ := h.barren n (List.mem_of_ne_of_mem off.1 hn) off.2
    exact ⟨d, found, vain, fun p hp => List.mem_cons_of_mem _ (closed p hp)⟩

/-- A name whose own methods and whose walk hold no such method joins those searched in vain. -/
theorem visited (h : s.SearchedInVain k path met) {name : String} {d : TypeDecl}
    {walk : List TypeDecl} (found : s.find? name = some d) (own : d.inheritable? k = none)
    (collected : s.InterfaceWalk (name :: met) d.interfaces walk)
    (vain : walk.findSome? (·.inheritable? k) = none) :
    s.SearchedInVain k path ((walk.map TypeDecl.name).reverse ++ name :: met) where
  path_met n hn := List.mem_append_right _ (List.mem_cons_of_mem _ (h.path_met n hn))
  barren n hn off := by
    have joined : ∀ p, p ∈ name :: met ∨ p ∈ walk.map TypeDecl.name →
        p ∈ (walk.map TypeDecl.name).reverse ++ name :: met := by
      intro p hp
      rw [List.mem_append, List.mem_reverse]
      exact hp.symm
    rcases List.mem_append.mp hn with hn | hn
    · obtain ⟨e, he, rfl⟩ := List.mem_map.mp (List.mem_reverse.mp hn)
      exact ⟨e, collected.found e he, List.findSome?_eq_none_iff.mp vain e he,
        fun p hp => joined p (collected.closed e he p hp)⟩
    · rcases List.mem_cons.mp hn with rfl | hn
      · exact ⟨d, found, own, fun p hp => joined p (collected.covered p hp)⟩
      · obtain ⟨e, found', vain', closed⟩ := h.barren n hn off
        exact ⟨e, found', vain', fun p hp => joined p (.inl (List.mem_cons_of_mem _ (closed p hp)))⟩

/-- Searching again among names that were searched in vain is in vain. -/
theorem firstInherited_eq_none {names : List String} (h : s.SearchedInVain k path met)
    (known : ∀ n ∈ names, n ∈ met) : s.firstInherited k path names = none := by
  fun_induction firstInherited s k path names generalizing met with
  | case1 => rfl
  | case2 path name later on ih | case3 path name later off missing ih =>
    exact ih h fun n hn => known n (List.mem_cons_of_mem _ hn)
  | case4 path name later off d found _ below beside =>
    obtain ⟨d', found', vain, closed⟩ := h.barren name (known name List.mem_cons_self) off
    obtain rfl := Option.some.inj (found.symm.trans found')
    rw [vain, below (h.step name) fun p hp => List.mem_cons_of_mem _ (closed p hp),
      beside h fun n hn => known n (List.mem_cons_of_mem _ hn)]
    rfl

theorem barren_below (h : s.SearchedInVain k path met) {name : String} {d : TypeDecl}
    (old : name ∈ met) (off : name ∉ path) (found : s.find? name = some d) :
    d.inheritable? k = none ∧ s.firstInherited k (name :: path) d.interfaces = none := by
  obtain ⟨d', found', vain, closed⟩ := h.barren name old off
  obtain rfl := Option.some.inj (found.symm.trans found')
  constructor
  · exact vain
  · apply (h.step name).firstInherited_eq_none
    intro p hp
    exact List.mem_cons_of_mem _ (closed p hp)

end SearchedInVain

/-- The record of visited names does not change which method comes first. -/
theorem findSome?_interfacesFrom {k : Signature} {path met names : List String}
    {walk : List TypeDecl} (h : s.SearchedInVain k path met)
    (ok : s.interfacesFrom met names = .ok walk) :
    walk.findSome? (·.inheritable? k) = s.firstInherited k path names := by
  fun_induction firstInherited s k path names generalizing met walk with
  | case1 =>
    rw [interfacesFrom] at ok
    obtain rfl := Except.ok.inj ok
    rfl
  | case2 path name later on ih => exact ih h (interfacesFrom_of_met (h.path_met name on) ▸ ok)
  | case3 path name later off missing ih =>
    by_cases old : name ∈ met
    · obtain ⟨d, found, _⟩ := h.barren name old off
      rw [missing] at found
      cases found
    · rw [interfacesFrom_of_undeclared old missing] at ok
      cases ok
  | case4 path name later off d found _ below beside =>
    by_cases old : name ∈ met
    · -- The walk passes over the name; the search looks below it again and finds nothing there.
      obtain ⟨vain, again⟩ := h.barren_below old off found
      rw [interfacesFrom_of_met old] at ok
      rw [vain, again, beside h ok]
      rfl
    · rw [interfacesFrom_of_new old found, interfacesFrom_append] at ok
      obtain ⟨both, okBoth, rfl⟩ := Outcome.map_eq_ok_iff.mp ok
      obtain ⟨under, okUnder, okLater⟩ := Outcome.bind_eq_ok_iff.mp okBoth
      obtain ⟨rest, okRest, okSum⟩ := Outcome.bind_eq_ok_iff.mp okLater
      obtain rfl := Except.ok.inj okSum
      rw [List.findSome?_cons, List.findSome?_append, below (h.step name) okUnder]
      cases own : d.inheritable? k with
      | some m => rfl
      | none =>
        cases deep : s.firstInherited k (name :: path) d.interfaces with
        | some m => rfl
        | none =>
          have vain : under.findSome? (·.inheritable? k) = none :=
            (below (h.step name) okUnder).trans deep
          rw [beside (h.visited found own (walk_of_interfacesFrom okUnder) vain) okRest]
          rfl

/-- The names of the interfaces that are on a chain themselves. -/
def chainInterfaces (chain : List TypeDecl) : List String :=
  (chain.filter fun d => d.kind = .interfaceType).map TypeDecl.name

/-- The method with signature `k` that users of a type meet first: on its superclass chain, or else
in a depth-first search through the interfaces of the chain. -/
def firstMet (s : Store) (chain : List TypeDecl) (k : Signature) : Option MethodDecl :=
  (chain.findSome? (·.shown? k)).or
    (s.firstInherited k (chainInterfaces chain) (chain.flatMap TypeDecl.interfaces))

theorem visible?_eq_firstMet {chain walk : List TypeDecl}
    (ok : s.interfacesOfChain chain = .ok walk) (k : Signature) :
    visible? chain walk k = s.firstMet chain k := by
  have start : s.SearchedInVain k (chainInterfaces chain) (chainInterfaces chain) :=
    ⟨fun _ hn => hn, fun _ hn off => absurd hn off⟩
  rw [visible?, firstMet, findSome?_interfacesFrom start ok]

end Store
end JavaStubs
