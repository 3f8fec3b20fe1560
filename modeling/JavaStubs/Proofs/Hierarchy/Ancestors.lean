import JavaStubs.Proofs.Catalog.OfCatalogs
import JavaStubs.Proofs.Hierarchy.SuperclassChain
import JavaStubs.Stub.Plan

/-!
# Ancestors of a target

The walk over targets and the walk over declarations are one walk: on a store that catalogs build,
they give the same types in the same order, or the same failure.
-/

namespace JavaStubs
namespace Store

variable {s : Store}

section Steps

variable {met : List String} {t parent : Target}

theorem ancestorsFrom_of_error {e : Failure} (h : s.superclassOf t = .error e) :
    s.ancestorsFrom met t = .error e := by
  rw [ancestorsFrom]
  split <;> simp_all

theorem ancestorsFrom_of_none (h : s.superclassOf t = .ok none) :
    s.ancestorsFrom met t = .ok [t] := by
  rw [ancestorsFrom]
  split <;> simp_all

theorem ancestorsFrom_of_met (h : s.superclassOf t = .ok (some parent))
    (old : parent.name ∈ met) :
    s.ancestorsFrom met t = .error (.inheritanceCycle parent.name) := by
  rw [ancestorsFrom]
  split <;> simp_all

theorem ancestorsFrom_of_new (h : s.superclassOf t = .ok (some parent))
    (new : parent.name ∉ met) :
    s.ancestorsFrom met t = (s.ancestorsFrom (parent.name :: met) parent).map (t :: ·) := by
  rw [ancestorsFrom]
  split <;> simp_all

end Steps

theorem superclassOf_target (built : s.OfCatalogs) {d : TypeDecl}
    (found : s.find? d.name = some d) :
    s.superclassOf d.target = match d.superclass with
      | none => .ok none
      | some parent => (s.decl parent).map fun e => some e.target := by
  by_cases isInterface : d.kind = .interfaceType
  · simp [superclassOf, TypeDecl.shape_target, isInterface,
      built.superclass_eq_none found isInterface]
  · have ok : s.decl d.target.name = .ok d := decl_eq_ok_iff.mpr found
    simp only [superclassOf, TypeDecl.shape_target, isInterface, ↓reduceIte, ok, bind, Except.bind]
    cases d.superclass with
    | none => rfl
    | some parent => cases hp : s.decl parent <;> simp [Except.map, pure, Except.pure, hp]

theorem ancestorsFrom_target (built : s.OfCatalogs) {met : List String} {name : String}
    {d : TypeDecl} (found : s.find? name = some d) (new : name ∉ met) :
    s.ancestorsFrom (name :: met) d.target =
      (s.chainFrom met name).map (List.map TypeDecl.target) := by
  fun_induction chainFrom s met name generalizing d with
  | case1 met name missing => rw [missing] at found; cases found
  | case2 met name e found' old => exact absurd old new
  | case3 met name e found' _ last =>
    obtain rfl := Option.some.inj (found'.symm.trans found)
    have next := superclassOf_target built ((name_of_find? found).symm ▸ found)
    rw [last] at next
    exact ancestorsFrom_of_none next
  | case4 met name e found' _ parent link _ ih =>
    obtain rfl := Option.some.inj (found'.symm.trans found)
    have next := superclassOf_target built ((name_of_find? found).symm ▸ found)
    rw [link] at next
    cases hp : s.find? parent with
    | none =>
      rw [chainFrom_of_undeclared hp]
      simp only [decl, hp] at next
      exact ancestorsFrom_of_error next
    | some q =>
      simp only [decl, hp, Except.map] at next
      have hq : q.target.name = parent := name_of_find? hp
      by_cases old : parent ∈ name :: met
      · rw [chainFrom_of_met hp old, ancestorsFrom_of_met next (hq ▸ old), hq]
        rfl
      · rw [ancestorsFrom_of_new next (hq ▸ old), hq, ih hp old]
        cases s.chainFrom (name :: met) parent <;> rfl

/-- On a store that catalogs build, the ancestors of a declared target are the targets of its
superclass chain, and the walk fails as the one over declarations does. -/
theorem ancestors_eq_map_chain (built : s.OfCatalogs) {d : TypeDecl}
    (found : s.find? d.name = some d) :
    s.ancestors d.target = (s.chain d.name).map (List.map TypeDecl.target) :=
  ancestorsFrom_target built found (by simp)

theorem ancestors_of_superChain (built : s.OfCatalogs) {d : TypeDecl} {chain : List TypeDecl}
    (found : s.find? d.name = some d) (isChain : s.SuperChain d.name chain) :
    s.ancestors d.target = .ok (chain.map TypeDecl.target) := by
  rw [ancestors_eq_map_chain built found, chain_eq_ok_iff.mpr isChain]
  rfl

theorem declaredMethods_target {d : TypeDecl} (found : s.find? d.name = some d) :
    s.declaredMethods d.target = .ok d.methods := by
  have ok : s.decl d.target.name = .ok d := decl_eq_ok_iff.mpr found
  unfold declaredMethods
  rw [TypeDecl.shape_target, ok]
  by_cases isInterface : d.kind = .interfaceType <;> simp [isInterface, Except.map]

theorem declaredBy_targets {ds : List TypeDecl} (found : ∀ d ∈ ds, s.find? d.name = some d) :
    s.declaredBy (ds.map TypeDecl.target) = .ok (ds.flatMap TypeDecl.methods) := by
  induction ds with
  | nil => rfl
  | cons d rest ih =>
    rw [List.map_cons, declaredBy, declaredMethods_target (found d List.mem_cons_self),
      ih fun e he => found e (List.mem_cons_of_mem _ he)]
    rfl

theorem declaredBy_of_superChain {name : String} {chain : List TypeDecl}
    (isChain : s.SuperChain name chain) :
    s.declaredBy (chain.map TypeDecl.target) = .ok (chain.flatMap TypeDecl.methods) :=
  declaredBy_targets fun _ hc => (isChain.mem_iff.mp hc).2

end Store
end JavaStubs
