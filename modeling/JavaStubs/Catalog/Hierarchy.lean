import JavaStubs.Catalog.Store

/-!
# Walks through the type hierarchy

A walk goes on only to names that it has not met and that the store declares, so it ends on every
store, also where superclasses or interfaces form a cycle.
-/

namespace JavaStubs
namespace Store

/-- The declarations whose names are not in `met`. -/
def unmet (s : Store) (met : List String) : List TypeDecl :=
  s.decls.filter fun d => d.name ∉ met

theorem unmet_length_lt {s : Store} {met : List String} {name : String} {d : TypeDecl}
    (found : s.find? name = some d) (new : name ∉ met) :
    (s.unmet (name :: met)).length < (s.unmet met).length := by
  have split : s.unmet (name :: met) = (s.unmet met).filter fun e => e.name ≠ name := by
    simp only [unmet, List.filter_filter]
    congr
    funext e
    simp
  have mem : d ∈ s.unmet met := by
    have hd : d ∈ s.decls := List.mem_of_find?_eq_some found
    simpa [unmet, hd, name_of_find? found] using new
  rw [split, List.length_filter_lt_length_iff_exists]
  exact ⟨d, mem, by simpa using name_of_find? found⟩

/-- The declarations from `name` up to a class without a superclass. It fails at a name that is not
declared, and at the first name that was met before. -/
def chainFrom (s : Store) (met : List String) (name : String) : Except Failure (List TypeDecl) :=
  match h : s.find? name with
  | none => .error (.unresolved name)
  | some d =>
    if new : name ∈ met then .error (.inheritanceCycle name)
    else match d.superclass with
      | none => .ok [d]
      | some parent =>
        have := unmet_length_lt h new
        (s.chainFrom (name :: met) parent).map (d :: ·)
termination_by (s.unmet met).length

/-- The declarations of a type and of its superclasses, nearest first. -/
def chain (s : Store) (name : String) : Except Failure (List TypeDecl) := s.chainFrom [] name

/-- The declarations reached from the names in `next` through interface links, each once, in the
order in which a walk meets them that follows the links of a declaration before it goes on. -/
def interfacesFrom (s : Store) (met : List String) (next : List String) :
    Except Failure (List TypeDecl) :=
  match next with
  | [] => .ok []
  | name :: later =>
    if new : name ∈ met then s.interfacesFrom met later
    else match h : s.find? name with
      | none => .error (.unresolved name)
      | some d =>
        have := unmet_length_lt h new
        (s.interfacesFrom (name :: met) (d.interfaces ++ later)).map (d :: ·)
termination_by ((s.unmet met).length, next.length)

/-- The targets from `t` up to one without a superclass. It fails where a superclass is not
declared, and at the first one that was met before. -/
def ancestorsFrom (s : Store) (met : List String) (t : Target) : Except Failure (List Target) :=
  match h : s.superclassOf t with
  | .error e => .error e
  | .ok none => .ok [t]
  | .ok (some parent) =>
    if new : parent.name ∈ met then .error (.inheritanceCycle parent.name)
    else
      have : (s.unmet (parent.name :: met)).length < (s.unmet met).length := by
        have found : ∃ d, s.find? parent.name = some d := by
          simp only [superclassOf, decl] at h
          split at h
          · cases hd : s.find? t.name with
            | none => simp [hd, bind, Except.bind] at h
            | some d =>
              cases hs : d.superclass with
              | none => simp [hd, hs, bind, Except.bind, pure, Except.pure] at h
              | some q =>
                cases hq : s.find? q with
                | none => simp [hd, hs, hq, bind, Except.bind] at h
                | some e =>
                  simp [hd, hs, hq, bind, Except.bind, pure, Except.pure] at h
                  subst h
                  exact ⟨e, by simpa [TypeDecl.target, name_of_find? hq] using hq⟩
          · simp at h
        exact unmet_length_lt found.choose_spec new
      (s.ancestorsFrom (parent.name :: met) parent).map (t :: ·)
termination_by (s.unmet met).length

/-- A type and its superclasses, nearest first. -/
def ancestors (s : Store) (t : Target) : Except Failure (List Target) := s.ancestorsFrom [t.name] t

end Store
end JavaStubs
