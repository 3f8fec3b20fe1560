import JavaStubs.Catalog.Members
import JavaStubs.Proofs.Hierarchy.SuperclassChain

/-!
# Reachable interfaces

The walk over interface links returns the declarations that links reach, each once, and leaves out
only names that it was told to have met. It fails exactly if a link reaches a name that is not
declared, on graphs with shared and with circular links as well.
-/

namespace JavaStubs
namespace Store

open Relation

variable {s : Store}

def InterfaceLink (s : Store) (name parent : String) : Prop :=
  ∃ d, s.find? name = some d ∧ parent ∈ d.interfaces

/-- Some declaration on the superclass chain of `name` leads to `n` over interface links, at least
one of them. -/
def InterfaceOf (s : Store) (name n : String) : Prop :=
  ∃ m, ReflTransGen s.SuperLink name m ∧ TransGen s.InterfaceLink m n

section Steps

variable {met later : List String} {name : String}

theorem interfacesFrom_of_met (old : name ∈ met) :
    s.interfacesFrom met (name :: later) = s.interfacesFrom met later := by
  rw [interfacesFrom]
  simp [old]

theorem interfacesFrom_of_undeclared (new : name ∉ met) (missing : s.find? name = none) :
    s.interfacesFrom met (name :: later) = .error (.unresolved name) := by
  rw [interfacesFrom]
  simp only [new, ↓reduceDIte]
  split <;> simp_all

theorem interfacesFrom_of_new {d : TypeDecl} (new : name ∉ met) (found : s.find? name = some d) :
    s.interfacesFrom met (name :: later) =
      (s.interfacesFrom (name :: met) (d.interfaces ++ later)).map (d :: ·) := by
  rw [interfacesFrom]
  simp only [new, ↓reduceDIte]
  split <;> simp_all

theorem interfacesOfChain_of_empty {chain : List TypeDecl}
    (empty : chain.flatMap TypeDecl.interfaces = []) : s.interfacesOfChain chain = .ok [] := by
  rw [interfacesOfChain, empty, interfacesFrom]

end Steps

/-- What a walk from the names in `next` collects when those in `met` are passed over. -/
structure InterfaceWalk (s : Store) (met next : List String) (ds : List TypeDecl) : Prop where
  found : ∀ d ∈ ds, s.find? d.name = some d
  new : ∀ d ∈ ds, d.name ∉ met
  distinct : (ds.map TypeDecl.name).Nodup
  reached : ∀ d ∈ ds, ∃ n ∈ next, ReflTransGen s.InterfaceLink n d.name
  covered : ∀ n ∈ next, n ∈ met ∨ n ∈ ds.map TypeDecl.name
  closed : ∀ d ∈ ds, ∀ p ∈ d.interfaces, p ∈ met ∨ p ∈ ds.map TypeDecl.name

/-- The walk that goes on to the interfaces of a declaration found at `name`. -/
theorem InterfaceWalk.visit {met later : List String} {name : String} {d : TypeDecl}
    {ds : List TypeDecl} (new : name ∉ met) (found : s.find? name = some d)
    (walk : s.InterfaceWalk (name :: met) (d.interfaces ++ later) ds) :
    s.InterfaceWalk met (name :: later) (d :: ds) := by
  have hname : d.name = name := name_of_find? found
  have passed : ∀ p, p ∈ name :: met ∨ p ∈ ds.map TypeDecl.name →
      p ∈ met ∨ p ∈ (d :: ds).map TypeDecl.name := by
    intro p hp
    rw [List.map_cons, hname]
    rcases hp with hp | hp
    · exact (List.mem_cons.mp hp).elim (fun e => .inr (e ▸ List.mem_cons_self)) .inl
    · exact .inr (List.mem_cons_of_mem _ hp)
  constructor
  case found => simpa [hname, found] using walk.found
  case new =>
    simpa [hname, new] using fun e he => (List.not_mem_of_not_mem_cons (walk.new e he))
  case distinct =>
    rw [List.map_cons, List.nodup_cons, hname]
    refine ⟨fun mem => ?_, walk.distinct⟩
    obtain ⟨e, he, same⟩ := List.mem_map.mp mem
    exact walk.new e he (same ▸ List.mem_cons_self)
  case reached =>
    intro e he
    rcases List.mem_cons.mp he with rfl | he
    · exact ⟨name, List.mem_cons_self, hname ▸ .refl⟩
    · obtain ⟨n, hn, path⟩ := walk.reached e he
      rcases List.mem_append.mp hn with hn | hn
      · exact ⟨name, List.mem_cons_self, path.head ⟨d, found, hn⟩⟩
      · exact ⟨n, List.mem_cons_of_mem _ hn, path⟩
  case covered =>
    intro n hn
    rcases List.mem_cons.mp hn with rfl | hn
    · exact .inr (by simp [hname])
    · exact passed n (walk.covered n (List.mem_append_right _ hn))
  case closed =>
    intro e he p hp
    rcases List.mem_cons.mp he with rfl | he
    · exact passed p (walk.covered p (List.mem_append_left _ hp))
    · exact passed p (walk.closed e he p hp)

theorem walk_of_interfacesFrom {met next : List String} {ds : List TypeDecl}
    (h : s.interfacesFrom met next = .ok ds) : s.InterfaceWalk met next ds := by
  fun_induction interfacesFrom s met next generalizing ds with
  | case1 =>
    obtain rfl := Except.ok.inj h
    constructor <;> simp
  | case2 met name later old ih =>
    have walk := ih h
    refine { walk with reached := fun d hd => ?_, covered := fun n hn => ?_ }
    · obtain ⟨n, hn, path⟩ := walk.reached d hd
      exact ⟨n, List.mem_cons_of_mem _ hn, path⟩
    · rcases List.mem_cons.mp hn with rfl | hn
      · exact .inl old
      · exact walk.covered n hn
  | case3 => cases h
  | case4 met name later new d found _ ih =>
    obtain ⟨rest, ok, rfl⟩ := Outcome.map_eq_ok_iff.mp h
    exact (ih ok).visit new found

/-- The walk fails only at a name that is not declared and that interface links reach. -/
theorem failure_of_interfacesFrom {met next : List String} {e : Failure}
    (h : s.interfacesFrom met next = .error e) :
    ∃ n, e = .unresolved n ∧ s.find? n = none ∧ ∃ m ∈ next, ReflTransGen s.InterfaceLink m n := by
  fun_induction interfacesFrom s met next with
  | case1 => cases h
  | case2 met name later old ih =>
    obtain ⟨n, fault, missing, m, hm, path⟩ := ih h
    exact ⟨n, fault, missing, m, List.mem_cons_of_mem _ hm, path⟩
  | case3 met name later new missing =>
    exact ⟨name, (Except.error.inj h).symm, missing, name, List.mem_cons_self, .refl⟩
  | case4 met name later new d found _ ih =>
    obtain ⟨n, fault, missing, m, hm, path⟩ := ih (Outcome.map_eq_error_iff.mp h)
    rcases List.mem_append.mp hm with hm | hm
    · exact ⟨n, fault, missing, name, List.mem_cons_self, path.head ⟨d, found, hm⟩⟩
    · exact ⟨n, fault, missing, m, List.mem_cons_of_mem _ hm, path⟩

section Chain

variable {name : String} {chain walk : List TypeDecl}

theorem interfaceOf_of_mem (isChain : s.SuperChain name chain) {n : String}
    (h : n ∈ chain.flatMap TypeDecl.interfaces) {m : String}
    (path : ReflTransGen s.InterfaceLink n m) : s.InterfaceOf name m := by
  obtain ⟨c, hc, hn⟩ := List.mem_flatMap.mp h
  obtain ⟨up, found⟩ := isChain.mem_iff.mp hc
  exact ⟨c.name, up, .head' ⟨c, found, hn⟩ path⟩

theorem mem_of_interfaceOf (isChain : s.SuperChain name chain)
    (ok : s.interfacesOfChain chain = .ok walk) {n : String} (h : s.InterfaceOf name n) :
    n ∈ walk.map TypeDecl.name ∨ ∃ c ∈ chain, c.kind = .interfaceType ∧ c.name = n := by
  have collected := walk_of_interfacesFrom ok
  have passed : ∀ p, p ∈ (chain.filter fun d => d.kind = .interfaceType).map TypeDecl.name ∨
      p ∈ walk.map TypeDecl.name →
      p ∈ walk.map TypeDecl.name ∨ ∃ c ∈ chain, c.kind = .interfaceType ∧ c.name = p := by
    rintro p (hp | hp)
    · obtain ⟨c, hc, rfl⟩ := List.mem_map.mp hp
      simp only [List.mem_filter, decide_eq_true_eq] at hc
      exact .inr ⟨c, hc.1, hc.2, rfl⟩
    · exact .inl hp
  have ofChain : ∀ c ∈ chain, ∀ p, s.InterfaceLink c.name p →
      p ∈ walk.map TypeDecl.name ∨ ∃ c ∈ chain, c.kind = .interfaceType ∧ c.name = p := by
    rintro c hc p ⟨d, found, hp⟩
    obtain rfl := Option.some.inj ((isChain.mem_iff.mp hc).2.symm.trans found)
    exact passed p (collected.covered p (List.mem_flatMap.mpr ⟨c, hc, hp⟩))
  obtain ⟨m, up, path⟩ := h
  -- The chain interfaces that the walk passes over list their own interfaces among its start names.
  induction path with
  | single link =>
    have declared := link
    obtain ⟨c, found, _⟩ := declared
    obtain rfl := name_of_find? found
    exact ofChain c (isChain.mem_iff.mpr ⟨up, found⟩) _ link
  | tail _ link ih =>
    rcases ih with mem | ⟨c, hc, _, rfl⟩
    · obtain ⟨d, hd, rfl⟩ := List.mem_map.mp mem
      obtain ⟨d', found, hp⟩ := link
      obtain rfl := Option.some.inj ((collected.found d hd).symm.trans found)
      exact passed _ (collected.closed d hd _ hp)
    · exact ofChain c hc _ link

theorem interfaceOf_of_walk (isChain : s.SuperChain name chain)
    (ok : s.interfacesOfChain chain = .ok walk) {d : TypeDecl} (h : d ∈ walk) :
    s.InterfaceOf name d.name ∧ s.find? d.name = some d := by
  have collected := walk_of_interfacesFrom ok
  obtain ⟨n, hn, path⟩ := collected.reached d h
  exact ⟨interfaceOf_of_mem isChain hn path, collected.found d h⟩

theorem interfacesOfChain_eq_error_iff (isChain : s.SuperChain name chain) :
    (∃ e, s.interfacesOfChain chain = .error e) ↔ ∃ n, s.InterfaceOf name n ∧ s.find? n = none := by
  constructor
  · rintro ⟨e, error⟩
    obtain ⟨n, _, missing, m, hm, path⟩ := failure_of_interfacesFrom error
    exact ⟨n, interfaceOf_of_mem isChain hm path, missing⟩
  · rintro ⟨n, reached, missing⟩
    rcases Outcome.ok_or_error (s.interfacesOfChain chain) with ⟨walk, ok⟩ | error
    · rcases mem_of_interfaceOf isChain ok reached with mem | ⟨c, hc, _, rfl⟩
      · obtain ⟨d, hd, rfl⟩ := List.mem_map.mp mem
        rw [(interfaceOf_of_walk isChain ok hd).2] at missing
        cases missing
      · rw [(isChain.mem_iff.mp hc).2] at missing
        cases missing
    · exact error

end Chain

end Store
end JavaStubs
