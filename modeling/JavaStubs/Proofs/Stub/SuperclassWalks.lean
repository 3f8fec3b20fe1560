import JavaStubs.Proofs.Stub.Obligations
import Mathlib.Data.List.Chain
import Mathlib.Data.List.Nodup

/-!
# How superclass walks end

A walk over superclass links meets one name after the other, none of them twice. It ends at a
declaration without a superclass, at a name that is not declared, or where a link leads back to a
name that it has met. The walk over targets ends as the walk over declarations does, so after a
query for the visible methods nothing is left that can fail in collecting the declared ones.
-/

namespace JavaStubs
namespace Store

variable {s : Store}

/-- Superclass links lead from `name` through the names in `before` to `n`, and no name comes twice.
-/
structure ComesTo (s : Store) (name : String) (before : List String) (n : String) : Prop where
  starts : (before ++ [n]).head? = some name
  linked : (before ++ [n]).IsChain s.SuperLink
  distinct : (before ++ [n]).Nodup

/-- The ends that a superclass walk from `name` can come to, with the names of the whole walk or the
failure. -/
inductive WalkEnds (s : Store) (name : String) : Except Failure (List String) → Prop
  | top {before n d} (path : s.ComesTo name before n) (found : s.find? n = some d)
      (last : d.superclass = none) : WalkEnds s name (.ok (before ++ [n]))
  | undeclared {before n} (path : s.ComesTo name before n) (missing : s.find? n = none) :
      WalkEnds s name (.error (.unresolved n))
  | cycle {before last n} (path : s.ComesTo name before last) (link : s.SuperLink last n)
      (old : n ∈ before ++ [last]) : WalkEnds s name (.error (.inheritanceCycle n))

theorem superLink_of_isChain_append {before : List String} {last n : String}
    (linked : (before ++ [last] ++ [n]).IsChain s.SuperLink) : s.SuperLink last n := by
  rw [List.isChain_append] at linked
  exact linked.2.2 last (by simp) n rfl

section Walk

variable {start name : String} {met : List String}

theorem comesTo_of_new (starts : (met.reverse ++ [name]).head? = some start)
    (linked : (met.reverse ++ [name]).IsChain s.SuperLink) (distinct : met.Nodup)
    (new : name ∉ met) : s.ComesTo start met.reverse name := by
  refine ⟨starts, linked, ?_⟩
  rw [← List.reverse_cons, List.nodup_reverse, List.nodup_cons]
  exact ⟨new, distinct⟩

/-- The end of a walk from `start` that has met `met`, the latest name first, and goes on to `name`.
-/
theorem walkEnds_chainFrom (starts : (met.reverse ++ [name]).head? = some start)
    (linked : (met.reverse ++ [name]).IsChain s.SuperLink) (distinct : met.Nodup)
    (declared : ∀ m ∈ met, ∃ d, s.find? m = some d) :
    s.WalkEnds start
      ((s.chainFrom met name).map fun ds => met.reverse ++ ds.map TypeDecl.name) := by
  fun_induction chainFrom s met name with
  | case1 met name missing =>
    have new : name ∉ met := by
      intro old
      obtain ⟨d, found⟩ := declared name old
      rw [missing] at found
      cases found
    exact .undeclared (comesTo_of_new starts linked distinct new) missing
  | case2 met name d found old =>
    cases met with
    | nil => cases old
    | cons last earlier =>
      rw [List.reverse_cons] at starts linked
      have path : s.ComesTo start earlier.reverse last := by
        apply comesTo_of_new
        case starts => simpa using starts
        case linked => exact linked.left_of_append
        case distinct => exact distinct.of_cons
        case new => exact (List.nodup_cons.mp distinct).1
      refine .cycle path (superLink_of_isChain_append linked) ?_
      rwa [← List.reverse_cons, List.mem_reverse]
  | case3 met name d found new last =>
    have names : met.reverse ++ [d].map TypeDecl.name = met.reverse ++ [name] := by
      rw [← name_of_find? found]
      rfl
    rw [Except.map, names]
    exact .top (comesTo_of_new starts linked distinct new) found last
  | case4 met name d found new parent next _ ih =>
    have longer : (name :: met).reverse ++ [parent] = met.reverse ++ [name] ++ [parent] := by
      rw [List.reverse_cons]
    have link : s.SuperLink name parent := ⟨d, found, next⟩
    have walk : s.WalkEnds start ((s.chainFrom (name :: met) parent).map
        fun ds => (name :: met).reverse ++ ds.map TypeDecl.name) := by
      apply ih
      · rw [longer, List.head?_append_of_ne_nil _ (by simp)]
        exact starts
      · rw [longer, List.isChain_append]
        refine ⟨linked, by simp, ?_⟩
        intro last hlast first hfirst
        obtain rfl : name = last := by simpa using hlast
        obtain rfl : parent = first := by simpa using hfirst
        exact link
      · exact List.nodup_cons.mpr ⟨new, distinct⟩
      · intro m hm
        rcases List.mem_cons.mp hm with rfl | hm
        · exact ⟨d, found⟩
        · exact declared m hm
    cases rest : s.chainFrom (name :: met) parent with
    | error e =>
      rw [rest] at walk
      exact walk
    | ok ds =>
      rw [rest] at walk
      simpa [Except.map, name_of_find? found] using walk

theorem walkEnds_chain (s : Store) (name : String) :
    s.WalkEnds name ((s.chain name).map (List.map TypeDecl.name)) := by
  have starts : (([] : List String).reverse ++ [name]).head? = some name := rfl
  exact walkEnds_chainFrom starts (List.isChain_singleton name) List.nodup_nil (by simp)

end Walk

/-- The walk over the targets above a resolved type gives the targets that the walk over
declarations gives, or fails as that one does, and a walk has one of three ends. So a type of which
the visible methods are known has obligations. -/
theorem superclassWalks_agree (built : s.OfCatalogs) {name : String} {t : Target}
    (resolved : s.resolve name = .ok t)
    (declared : t.shape = .classType ∨ t.shape = .interfaceType) :
    s.ancestors t = (s.chain t.name).map (List.map TypeDecl.target) ∧
      s.WalkEnds t.name ((s.chain t.name).map (List.map TypeDecl.name)) ∧
      ∀ ms, s.members t = .ok ms → ∃ set, s.obligations t = .ok set := by
  obtain ⟨d, found, rfl⟩ := resolve_declared resolved declared
  refine ⟨ancestors_eq_map_chain built found, walkEnds_chain s d.name, ?_⟩
  intro ms ok
  rcases Outcome.ok_or_error (s.obligations d.target) with collected | ⟨e, error⟩
  · exact collected
  · rw [obligations_eq_error_iff built found, ok] at error
    cases error

def extending (name parent : String) : TypeDecl := { name := name, superclass := some parent }

/-- Three classes of which the last two extend each other. -/
def spiralStore : Store := empty.insert ⟨[extending "a.Outer" "a.Middle",
  extending "a.Middle" "a.Inner", extending "a.Inner" "a.Middle"]⟩

def outer : Target := ⟨"a.Outer", .classType, .none⟩

theorem chain_spiralStore :
    spiralStore.chain outer.name = .error (.inheritanceCycle "a.Middle") := by
  have outer : spiralStore.find? "a.Outer" = some (extending "a.Outer" "a.Middle").normalize := rfl
  have middle : spiralStore.find? "a.Middle" = some (extending "a.Middle" "a.Inner").normalize :=
    rfl
  have inner : spiralStore.find? "a.Inner" = some (extending "a.Inner" "a.Middle").normalize := rfl
  change spiralStore.chainFrom [] "a.Outer" = _
  rw [chainFrom_of_link outer (by simp) rfl, chainFrom_of_link middle (by simp) rfl,
    chainFrom_of_link inner (by simp) rfl, chainFrom_of_met middle (by simp)]
  rfl

theorem spiralStore_walks_agree :
    spiralStore.OfCatalogs ∧ spiralStore.resolve "a.Outer" = .ok outer ∧
    outer.shape = .classType ∧
    spiralStore.ancestors outer = (spiralStore.chain outer.name).map (List.map TypeDecl.target) ∧
    spiralStore.WalkEnds outer.name (.error (.inheritanceCycle "a.Middle")) ∧
    ∀ ms, spiralStore.members outer = .ok ms → ∃ set, spiralStore.obligations outer = .ok set := by
  have built : spiralStore.OfCatalogs := .insert _ .empty
  have resolved : spiralStore.resolve "a.Outer" = .ok outer := rfl
  obtain ⟨same, walk, collected⟩ := superclassWalks_agree built resolved (.inl rfl)
  rw [chain_spiralStore] at walk
  exact ⟨built, resolved, rfl, same, walk, collected⟩

end Store
end JavaStubs
