import JavaStubs.Proofs.Hierarchy.Ancestors
import JavaStubs.Proofs.Hierarchy.InheritedMembers
import JavaStubs.Stub.Plan

/-!
# How planning fails

Each step of planning fails in ways of its own: a look-up at a name that is not declared, a walk at
such a name or at a cycle, and the checks of the target and of its constructors with the fault that
they look for. All of them turn the request down.
-/

namespace JavaStubs

namespace Failure

/-- The request is turned down, for its output path or for the type that it names. -/
def isRejection : Failure → Bool
  | .invalidPath _ _ | .unresolved _ | .inheritanceCycle _ | .structural _ _
  | .noAccessibleConstructor _ => true
  | _ => false

/-- Names above a type are not declared, or lead back to one another. -/
def OfAncestry (e : Failure) : Prop := ∃ n, e = .unresolved n ∨ e = .inheritanceCycle n

theorem OfAncestry.isRejection {e : Failure} (above : e.OfAncestry) : e.isRejection := by
  obtain ⟨n, rfl | rfl⟩ := above <;> rfl

end Failure

theorem Target.failure_of_forwarders {t : Target} {declared : List ConstructorDecl}
    {failure : Failure} (h : t.forwarders declared = .error failure) :
    failure = .noAccessibleConstructor t.name := by
  unfold forwarders at h
  split at h
  · cases h
  · split at h
    · exact (Except.error.inj h).symm
    · cases h

theorem Target.failure_of_validate {t : Target} {failure : Failure}
    (h : t.validate = .error failure) : ∃ reason, failure = .structural t.name reason := by
  unfold validate at h
  split at h
  case h_1 reason _ => exact ⟨reason, (Except.error.inj h).symm⟩
  case h_2 => cases h

namespace Store

variable {s : Store} {text : String} {t : Target} {failure : Failure}

section LookUps

theorem failure_of_decl {name : String} (h : s.decl name = .error failure) :
    failure = .unresolved name := by
  unfold decl at h
  split at h
  · cases h
  · exact (Except.error.inj h).symm

theorem failure_of_resolveRef {ref : TypeRef} (h : s.resolveRef ref = .error failure) :
    ∃ n, failure = .unresolved n := by
  induction ref with
  | primitive p => cases h
  | array element ih =>
    rcases Outcome.bind_eq_error_iff.mp h with h | ⟨inner, _, h⟩
    · exact ih h
    · cases h
  | named name => exact ⟨name, failure_of_decl (Outcome.map_eq_error_iff.mp h)⟩

theorem failure_of_resolve (h : s.resolve text = .error failure) :
    ∃ n, failure = .unresolved n := by
  unfold resolve at h
  split at h
  · exact failure_of_resolveRef h
  · exact ⟨text, (Except.error.inj h).symm⟩

theorem failure_of_superclassOf (h : s.superclassOf t = .error failure) :
    ∃ n, failure = .unresolved n := by
  unfold superclassOf at h
  split at h
  case isFalse => cases h
  case isTrue =>
    rcases Outcome.bind_eq_error_iff.mp h with missing | ⟨d, _, h⟩
    · exact ⟨t.name, failure_of_decl missing⟩
    · cases next : d.superclass with
      | none => simp [next, pure, Except.pure] at h
      | some parent =>
        simp only [next] at h
        rcases Outcome.bind_eq_error_iff.mp h with missing | ⟨_, _, h⟩
        · exact ⟨parent, failure_of_decl missing⟩
        · cases h

theorem failure_of_constructors (h : s.constructors t = .error failure) :
    failure = .unresolved t.name := by
  unfold constructors at h
  split at h
  case isFalse => cases h
  case isTrue =>
    rcases Outcome.bind_eq_error_iff.mp h with missing | ⟨_, _, h⟩
    · exact failure_of_decl missing
    · cases h

theorem failure_of_declaredBy {ts : List Target} (h : s.declaredBy ts = .error failure) :
    ∃ n, failure = .unresolved n := by
  induction ts with
  | nil => cases h
  | cons t rest ih =>
    rcases Outcome.bind_eq_error_iff.mp h with missing | ⟨_, _, h⟩
    · unfold declaredMethods at missing
      split at missing
      · exact ⟨t.name, failure_of_decl (Outcome.map_eq_error_iff.mp missing)⟩
      · exact ⟨t.name, failure_of_decl (Outcome.map_eq_error_iff.mp missing)⟩
      · cases missing
      · cases missing
    · rcases Outcome.bind_eq_error_iff.mp h with missing | ⟨_, _, h⟩
      · exact ih missing
      · cases h

end LookUps

section Walks

theorem failure_of_members (h : s.members t = .error failure) : failure.OfAncestry := by
  by_cases declared : t.shape = .classType ∨ t.shape = .interfaceType
  · rw [members_eq declared] at h
    rcases Outcome.bind_eq_error_iff.mp h with broken | ⟨chain, _, h⟩
    · obtain ⟨n, _, ⟨fault, _⟩ | ⟨fault, _⟩⟩ := failure_of_chainFrom (by simp) broken
      · exact ⟨n, .inl fault⟩
      · exact ⟨n, .inr fault⟩
    · rcases Outcome.bind_eq_error_iff.mp h with missing | ⟨walk, _, h⟩
      · obtain ⟨n, fault, _⟩ := failure_of_interfacesFrom missing
        exact ⟨n, .inl fault⟩
      · cases h
  · unfold members at h
    cases shape : t.shape <;> simp_all

theorem failure_of_ancestorsFrom {met : List String} (h : s.ancestorsFrom met t = .error failure) :
    failure.OfAncestry := by
  fun_induction ancestorsFrom s met t with
  | case1 met t e failed =>
    obtain rfl := Except.error.inj h
    obtain ⟨n, fault⟩ := failure_of_superclassOf failed
    exact ⟨n, .inl fault⟩
  | case2 => cases h
  | case3 met t parent next old => exact ⟨parent.name, .inr (Except.error.inj h).symm⟩
  | case4 met t parent next new _ ih => exact ih (Outcome.map_eq_error_iff.mp h)

theorem failure_of_obligations (h : s.obligations t = .error failure) : failure.OfAncestry := by
  rcases Outcome.bind_eq_error_iff.mp h with visible | ⟨_, _, h⟩
  · exact failure_of_members visible
  · rcases Outcome.bind_eq_error_iff.mp h with above | ⟨_, _, h⟩
    · exact failure_of_ancestorsFrom above
    · rcases Outcome.bind_eq_error_iff.mp h with declared | ⟨_, _, h⟩
      · obtain ⟨n, fault⟩ := failure_of_declaredBy declared
        exact ⟨n, .inl fault⟩
      · cases h

end Walks

theorem failure_of_plan (h : s.plan t = .error failure) : failure.isRejection := by
  rcases Outcome.bind_eq_error_iff.mp h with collected | ⟨_, _, h⟩
  · rcases Outcome.bind_eq_error_iff.mp collected with invalid | ⟨_, _, h⟩
    · obtain ⟨_, rfl⟩ := Target.failure_of_validate invalid
      rfl
    · rcases Outcome.bind_eq_error_iff.mp h with broken | ⟨_, _, h⟩
      · exact (failure_of_obligations broken).isRejection
      · rcases Outcome.bind_eq_error_iff.mp h with missing | ⟨_, _, h⟩
        · rw [failure_of_constructors missing]
          rfl
        · cases h
  · rcases Outcome.bind_eq_error_iff.mp h with bare | ⟨_, _, h⟩
    · rw [Target.failure_of_forwarders bare]
      rfl
    · cases h

theorem failure_of_planFor (h : s.planFor text = .error failure) : failure.isRejection := by
  rcases Outcome.bind_eq_error_iff.mp h with unresolved | ⟨_, _, h⟩
  · obtain ⟨_, rfl⟩ := failure_of_resolve unresolved
    rfl
  · exact failure_of_plan h

end Store
end JavaStubs
