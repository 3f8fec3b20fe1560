import JavaStubs.Proofs.Catalog.Normalization
import JavaStubs.Proofs.Stub.Faults
import JavaStubs.Proofs.Stub.Obligations
import JavaStubs.Proofs.Stub.PlanPaths

/-!
# Which types can be planned

A plan exists exactly for the declared classes and interfaces that are neither final nor the base of
all enums, whose ancestors are declared without a cycle, and that offer a constructor unless they
are interfaces. Of several faults the first one in this order is reported.
-/

namespace JavaStubs

namespace TypeDecl

variable (d : TypeDecl)

/-- A class that extends the type has a constructor to call, or needs none. -/
def IsConstructible (d : TypeDecl) : Prop :=
  d.kind = .interfaceType ∨ ∃ c ∈ d.offered, ¬ c.modifiers.has .privateAccess

/-- What an implementation forwards to: the constructors that are not private, in their order. -/
def forwarded (d : TypeDecl) : List ConstructorObligation :=
  (d.offered.filter fun c => !c.modifiers.has .privateAccess).map ConstructorObligation.ofDecl

theorem forwarded_eq_nil_iff :
    d.forwarded = [] ↔ ∀ c ∈ d.offered, c.modifiers.has .privateAccess := by
  simp [forwarded]

theorem offered_of_interface (isInterface : d.kind = .interfaceType) : d.offered = [] :=
  if_pos isInterface

theorem isInterface_normalize : d.normalize.target.isInterface ↔ d.kind = .interfaceType := by
  rw [isInterface_target, kind_normalize]

theorem forwarders_of_constructible (h : d.IsConstructible) :
    d.normalize.target.forwarders d.offered = .ok d.forwarded := by
  unfold Target.forwarders
  split
  case isTrue isInterface =>
    rw [isInterface_normalize] at isInterface
    rw [forwarded, d.offered_of_interface isInterface]
    rfl
  case isFalse isClass =>
    obtain ⟨c, hc, accessible⟩ := h.resolve_left (mt d.isInterface_normalize.mpr isClass)
    have mem : c ∈ d.offered.filter ConstructorDecl.isEligible := by
      simp [hc, ConstructorDecl.isEligible, accessible]
    cases eligible : d.offered.filter ConstructorDecl.isEligible with
    | nil => simp [eligible] at mem
    | cons first rest =>
      have forwarded : d.forwarded = (first :: rest).map ConstructorObligation.ofDecl :=
        congrArg (List.map ConstructorObligation.ofDecl) eligible
      rw [forwarded]

theorem forwarders_of_not_constructible (h : ¬ d.IsConstructible) :
    d.normalize.target.forwarders d.offered = .error (.noAccessibleConstructor d.name) := by
  have isClass : ¬ d.normalize.target.isInterface := by
    intro isInterface
    exact h (.inl (d.isInterface_normalize.mp isInterface))
  have noneEligible : d.offered.filter ConstructorDecl.isEligible = [] := by
    rw [List.filter_eq_nil_iff]
    intro c hc eligible
    exact h (.inr ⟨c, hc, by simpa [ConstructorDecl.isEligible] using eligible⟩)
  rw [Target.forwarders, if_neg isClass, noneEligible, name_target_normalize]

end TypeDecl

namespace Target

def IsClosed (t : Target) : Prop :=
  t.shape = .primitive ∨ t.shape = .array ∨ t.name = "java.lang.Enum" ∨ t.modifiers.has .final

theorem rejection?_eq_none_iff (t : Target) : t.rejection? = none ↔ ¬ t.IsClosed := by
  unfold rejection? IsClosed isEnumBase enumBase
  cases t.shape with
  | primitive | array => simp
  | classType | interfaceType =>
    by_cases base : t.name = "java.lang.Enum"
    · simp [base]
    · by_cases final : t.modifiers.has .final <;> simp [base, final]

theorem exists_rejection_iff (t : Target) :
    (∃ reason, t.rejection? = some reason) ↔ t.IsClosed := by
  rw [← not_iff_not, ← rejection?_eq_none_iff]
  simp [Option.eq_none_iff_forall_ne_some]

end Target

namespace TypeDecl

/-- Nothing can implement the type, whatever its ancestors and its constructors are. -/
def IsClosed (d : TypeDecl) : Prop :=
  d.kind = .enumType ∨ d.name = "java.lang.Enum" ∨ d.modifiers.has .final

theorem isClosed_target_iff (d : TypeDecl) : d.normalize.target.IsClosed ↔ d.IsClosed := by
  have modifiers : d.normalize.target.modifiers = d.normalize.modifiers := rfl
  have shape := d.normalize.declared_target
  unfold Target.IsClosed IsClosed
  rw [name_target_normalize, modifiers, d.has_final_normalize]
  rcases shape with shape | shape <;> simp [shape] <;> tauto

end TypeDecl

namespace Store

variable {s : Store} {text : String} {d e : TypeDecl} {t : Target}

/-- The text spells out the name of the type that a catalog declares by `d`. -/
structure Denotes (s : Store) (text : String) (d : TypeDecl) : Prop where
  spelled : TypeRef.parse text = .ok (.named d.name)
  stored : s.find? d.name = some d.normalize

theorem Denotes.found (denotes : s.Denotes text d) :
    s.find? d.normalize.name = some d.normalize := by
  rw [d.name_normalize]
  exact denotes.stored

theorem Denotes.resolve_eq (denotes : s.Denotes text d) :
    s.resolve text = .ok d.normalize.target := by
  refine (resolve_declared_iff.mpr ⟨d.normalize, ?_, denotes.found, rfl⟩).1
  rw [d.name_normalize]
  exact denotes.spelled

/-- The superclasses of a type are declared without a cycle, and so are all interfaces above it. -/
structure SoundAncestry (s : Store) (name : String) : Prop where
  chain : ¬ s.BrokenChain name
  interfaces : ∀ n, s.InterfaceOf name n → ∃ d, s.find? n = some d

structure Implementable (s : Store) (text : String) (d : TypeDecl) : Prop
    extends s.Denotes text d where
  notEnum : d.kind ≠ .enumType
  notEnumBase : d.name ≠ "java.lang.Enum"
  notFinal : ¬ d.modifiers.has .final
  ancestry : s.SoundAncestry d.name
  constructible : d.IsConstructible

theorem members_isOk_iff (declared : t.shape = .classType ∨ t.shape = .interfaceType) :
    (∃ ms, s.members t = .ok ms) ↔ s.SoundAncestry t.name := by
  rw [Outcome.exists_ok_iff, members_eq_error_iff declared]
  constructor
  · intro sound
    refine ⟨fun broken => sound (.inl broken), fun n above => ?_⟩
    cases h : s.find? n with
    | none => exact absurd (.inr ⟨n, above, h⟩) sound
    | some d => exact ⟨d, rfl⟩
  · rintro sound (broken | ⟨n, above, missing⟩)
    · exact sound.chain broken
    · obtain ⟨d, found⟩ := sound.interfaces n above
      rw [missing] at found
      cases found

theorem obligations_isOk_iff (built : s.OfCatalogs) (found : s.find? e.name = some e) :
    (∃ set, s.obligations e.target = .ok set) ↔ s.SoundAncestry e.name := by
  have sound : (∃ ms, s.members e.target = .ok ms) ↔ s.SoundAncestry e.name :=
    members_isOk_iff e.declared_target
  rw [← sound, Outcome.exists_ok_iff, Outcome.exists_ok_iff]
  simp only [obligations_eq_error_iff built found]

section Plan

theorem plan_of_rejection {reason : StructuralReason} (rejected : t.rejection? = some reason) :
    s.plan t = .error (.structural t.name reason) := by
  unfold plan surface Target.validate
  rw [rejected]
  rfl

/-- The plan of a declared target that can be implemented, put together from its obligations and the
constructors of its declaration. -/
theorem plan_target (found : s.find? e.name = some e) (accepted : e.target.rejection? = none) :
    s.plan e.target = (do
      let set ← s.obligations e.target
      let constructors ← e.target.forwarders (e.constructors.getD [])
      return ⟨e.target, e.target.simpleName ++ generatedSuffix, constructors, set⟩) := by
  have ok : s.decl e.target.name = .ok e := decl_eq_ok_iff.mpr found
  unfold plan surface Target.validate
  rw [accepted]
  cases s.obligations e.target with
  | error failure => rfl
  | ok set =>
    by_cases isInterface : e.kind = .interfaceType
    · have shape : e.target.shape = .interfaceType := by simp [e.shape_target, isInterface]
      simp [constructors, Target.forwarders, Target.isInterface, shape, bind, Except.bind, pure,
        Except.pure]
    · have shape : e.target.shape = .classType := by simp [e.shape_target, isInterface]
      simp [constructors, shape, ok, bind, Except.bind, pure, Except.pure]

end Plan

theorem planFor_of_resolve (resolved : s.resolve text = .ok t) : s.planFor text = s.plan t := by
  unfold planFor
  rw [resolved]
  rfl

theorem resolve_iff_denotes (built : s.OfCatalogs) :
    s.resolve text = .ok t ∧ (t.shape = .classType ∨ t.shape = .interfaceType) ↔
      ∃ d, s.Denotes text d ∧ t = d.normalize.target := by
  rw [resolve_declared_iff]
  constructor
  · rintro ⟨e, spelled, found, rfl⟩
    obtain ⟨d, rfl⟩ := built.normalized found
    rw [d.name_normalize] at spelled found
    exact ⟨d, ⟨spelled, found⟩, rfl⟩
  · rintro ⟨d, denotes, rfl⟩
    exact ⟨d.normalize, by rw [d.name_normalize]; exact denotes.spelled, denotes.found, rfl⟩

/-- The courses that planning an implementation of `d` can take, each with its result. What rules
out an implementation is looked for in this order. -/
inductive Course (s : Store) (d : TypeDecl) : Except Failure Plan → Prop
  | closed (reason : StructuralReason) (closed : d.IsClosed) :
      Course s d (.error (.structural d.name reason))
  | unsound (failure : Failure) (isOpen : ¬ d.IsClosed)
      (unsound : ¬ s.SoundAncestry d.name) (above : failure.OfAncestry) :
      Course s d (.error failure)
  | bare (isOpen : ¬ d.IsClosed) (sound : s.SoundAncestry d.name)
      (bare : ¬ d.IsConstructible) : Course s d (.error (.noAccessibleConstructor d.name))
  | planned (p : Plan) (isOpen : ¬ d.IsClosed) (sound : s.SoundAncestry d.name)
      (constructible : d.IsConstructible) (forwards : p.constructors = d.forwarded) :
      Course s d (.ok p)

theorem Denotes.planFor_eq (denotes : s.Denotes text d) (isOpen : ¬ d.IsClosed) :
    s.planFor text = (do
      let set ← s.obligations d.normalize.target
      let constructors ← d.normalize.target.forwarders d.offered
      return ⟨d.normalize.target, d.normalize.target.simpleName ++ generatedSuffix, constructors,
        set⟩) := by
  have plan := plan_target denotes.found
    ((Target.rejection?_eq_none_iff _).mpr (mt d.isClosed_target_iff.mp isOpen))
  rw [d.constructors_normalize] at plan
  exact (planFor_of_resolve denotes.resolve_eq).trans plan

section Built

variable (built : s.OfCatalogs)
include built

namespace Denotes

theorem obligations_isOk_iff (denotes : s.Denotes text d) :
    (∃ set, s.obligations d.normalize.target = .ok set) ↔ s.SoundAncestry d.name := by
  have sound := Store.obligations_isOk_iff built denotes.found
  rwa [d.name_normalize] at sound

theorem course (denotes : s.Denotes text d) : s.Course d (s.planFor text) := by
  by_cases closed : d.IsClosed
  · obtain ⟨reason, rejected⟩ :=
      (Target.exists_rejection_iff _).mpr (d.isClosed_target_iff.mpr closed)
    rw [planFor_of_resolve denotes.resolve_eq, plan_of_rejection rejected,
      d.name_target_normalize]
    exact .closed reason closed
  have sound := denotes.obligations_isOk_iff built
  rw [denotes.planFor_eq closed]
  rcases Outcome.ok_or_error (s.obligations d.normalize.target) with ⟨set, ok⟩ | ⟨failure, error⟩
  · rw [ok] at sound ⊢
    have sound := sound.mp ⟨set, rfl⟩
    by_cases constructible : d.IsConstructible
    · rw [d.forwarders_of_constructible constructible]
      exact .planned _ closed sound constructible rfl
    · rw [d.forwarders_of_not_constructible constructible]
      exact .bare closed sound constructible
  · have above := failure_of_obligations error
    rw [error] at sound ⊢
    exact .unsound failure closed (by simp [← sound]) above

end Denotes

/-- Planning takes one of the courses of the declaration that the text denotes, or the text does not
resolve, or it resolves to a type that is closed. -/
theorem planFor_cases (text : String) :
    (∃ d, s.Denotes text d ∧ s.Course d (s.planFor text)) ∨
    (∃ n, s.planFor text = .error (.unresolved n)) ∨
    ∃ t reason, s.resolve text = .ok t ∧ t.IsClosed ∧
      s.planFor text = .error (.structural t.name reason) := by
  rcases Outcome.ok_or_error (s.resolve text) with ⟨t, resolved⟩ | ⟨failure, failed⟩
  · by_cases closed : t.IsClosed
    · obtain ⟨reason, rejected⟩ := t.exists_rejection_iff.mpr closed
      exact .inr (.inr ⟨t, reason, resolved, closed,
        (planFor_of_resolve resolved).trans (plan_of_rejection rejected)⟩)
    · have declared := Target.declared_of_rejection?_eq_none (t.rejection?_eq_none_iff.mpr closed)
      obtain ⟨d, denotes, _⟩ := (resolve_iff_denotes built).mp ⟨resolved, declared⟩
      exact .inl ⟨d, denotes, denotes.course built⟩
  · obtain ⟨n, rfl⟩ := failure_of_resolve failed
    refine .inr (.inl ⟨n, ?_⟩)
    unfold planFor
    rw [failed]
    rfl

theorem planFor_isOk_iff : (∃ p, s.planFor text = .ok p) ↔ ∃ d, s.Implementable text d := by
  constructor
  · rintro ⟨p, ok⟩
    have cases := planFor_cases built text
    rw [ok] at cases
    rcases cases with ⟨d, denotes, course⟩ | ⟨_, ⟨⟩⟩ | ⟨_, _, _, _, ⟨⟩⟩
    cases course with
    | planned _ isOpen sound constructible _ =>
      unfold TypeDecl.IsClosed at isOpen
      push Not at isOpen
      obtain ⟨notEnum, notEnumBase, notFinal⟩ := isOpen
      exact ⟨d, denotes, notEnum, notEnumBase, notFinal, sound, constructible⟩
  · rintro ⟨d, able⟩
    have isOpen : ¬ d.IsClosed := by
      rintro (isEnum | isEnumBase | isFinal)
      · exact able.notEnum isEnum
      · exact able.notEnumBase isEnumBase
      · exact able.notFinal isFinal
    have course := able.toDenotes.course built
    generalize s.planFor text = result at course ⊢
    cases course with
    | closed _ closed => exact absurd closed isOpen
    | unsound _ _ unsound => exact absurd able.ancestry unsound
    | bare _ _ bare => exact absurd able.constructible bare
    | planned p => exact ⟨p, rfl⟩

theorem structural_iff {n : String} :
    (∃ reason, s.planFor text = .error (.structural n reason)) ↔
      ∃ t, s.resolve text = .ok t ∧ t.name = n ∧ t.IsClosed := by
  constructor
  · rintro ⟨reason, error⟩
    have cases := planFor_cases built text
    rw [error] at cases
    rcases cases with ⟨d, denotes, course⟩ | ⟨_, ⟨⟩⟩ | ⟨t, _, resolved, closed, ⟨⟩⟩
    · cases course with
      | closed _ closed =>
        have closed := d.isClosed_target_iff.mpr closed
        exact ⟨_, denotes.resolve_eq, d.name_target_normalize, closed⟩
      | unsound _ _ _ above => simp [Failure.OfAncestry] at above
    · exact ⟨t, resolved, rfl, closed⟩
  · rintro ⟨t, resolved, rfl, closed⟩
    obtain ⟨reason, rejected⟩ := t.exists_rejection_iff.mpr closed
    exact ⟨reason, (planFor_of_resolve resolved).trans (plan_of_rejection rejected)⟩

theorem Denotes.failure_of_unsound (denotes : s.Denotes text d) (isOpen : ¬ d.IsClosed)
    (unsound : ¬ s.SoundAncestry d.name) :
    ∃ e, s.planFor text = .error e ∧ e.OfAncestry := by
  have course := denotes.course built
  generalize s.planFor text = result at course ⊢
  cases course with
  | closed _ closed => exact absurd closed isOpen
  | unsound e _ _ above => exact ⟨e, rfl, above⟩
  | bare _ sound _ => exact absurd sound unsound
  | planned _ _ sound => exact absurd sound unsound

theorem noAccessibleConstructor_iff {n : String} :
    s.planFor text = .error (.noAccessibleConstructor n) ↔
      ∃ d, s.Denotes text d ∧ d.name = n ∧ ¬ d.IsClosed ∧ s.SoundAncestry n ∧
        ¬ d.IsConstructible := by
  constructor
  · intro error
    have cases := planFor_cases built text
    rw [error] at cases
    rcases cases with ⟨d, denotes, course⟩ | ⟨_, ⟨⟩⟩ | ⟨_, _, _, _, ⟨⟩⟩
    cases course with
    | unsound _ _ _ above => simp [Failure.OfAncestry] at above
    | bare isOpen sound bare => exact ⟨d, denotes, rfl, isOpen, sound, bare⟩
  · rintro ⟨d, denotes, rfl, isOpen, sound, bare⟩
    have course := denotes.course built
    generalize s.planFor text = result at course ⊢
    cases course with
    | closed _ closed => exact absurd closed isOpen
    | unsound _ _ unsound => exact absurd sound unsound
    | bare => rfl
    | planned _ _ _ constructible => exact absurd constructible bare

theorem Denotes.constructors_eq (denotes : s.Denotes text d) {p : Plan}
    (ok : s.planFor text = .ok p) :
    p.constructors = d.forwarded ∧ (p.constructors = [] ↔ d.kind = .interfaceType) := by
  have course := denotes.course built
  rw [ok] at course
  cases course with
  | planned _ _ _ constructible forwards =>
    refine ⟨forwards, ?_⟩
    rw [forwards, d.forwarded_eq_nil_iff]
    constructor
    · intro allPrivate
      rcases constructible with isInterface | ⟨c, hc, accessible⟩
      · exact isInterface
      · exact absurd (allPrivate c hc) accessible
    · intro isInterface
      simp [d.offered_of_interface isInterface]

end Built

structure Verdict (s : Store) (text : String) (result : Except Failure Plan) : Prop where
  accepts : (∃ p, result = .ok p) ↔ ∃ d, s.Implementable text d
  constructors : ∀ p d, result = .ok p → s.Denotes text d →
    p.constructors = d.forwarded ∧ (p.constructors = [] ↔ d.kind = .interfaceType)
  structural : ∀ n, (∃ reason, result = .error (.structural n reason)) ↔
    ∃ t, s.resolve text = .ok t ∧ t.name = n ∧ t.IsClosed
  unsound : ∀ d, s.Denotes text d → ¬ d.IsClosed → ¬ s.SoundAncestry d.name →
    ∃ e, result = .error e ∧ e.OfAncestry
  noAccessibleConstructor : ∀ n, result = .error (.noAccessibleConstructor n) ↔
    ∃ d, s.Denotes text d ∧ d.name = n ∧ ¬ d.IsClosed ∧ s.SoundAncestry n ∧ ¬ d.IsConstructible

/-- A type can be planned exactly if a class can implement it. The plan forwards to the constructors
that are not private, and the faults of a declaration itself are reported before those of its
ancestors, which come before the lack of a constructor. -/
theorem planFor_verdict (built : s.OfCatalogs) (text : String) :
    s.Verdict text (s.planFor text) where
  accepts := planFor_isOk_iff built
  constructors _ _ ok denotes := denotes.constructors_eq built ok
  structural _ := structural_iff built
  unsound _ denotes isOpen unsound := denotes.failure_of_unsound built isOpen unsound
  noAccessibleConstructor _ := noAccessibleConstructor_iff built

/-- A class with a private, a protected and a public constructor. -/
def vault : TypeDecl where
  name := "a.Vault"
  modifiers := .ofList [.publicAccess, .abstract]
  constructors := some [
    { modifiers := .single .privateAccess },
    { params := [.primitive .int], modifiers := .single .protectedAccess },
    { throws := [.named "a.Jammed"], modifiers := .single .publicAccess }]

def vaultStore : Store := empty.insert ⟨[vault, rootDecl]⟩

theorem soundAncestry_vaultStore : vaultStore.SoundAncestry vault.name := by
  let chain := [vault.normalize, rootDecl.normalize]
  have isChain : vaultStore.SuperChain vault.name chain := .link rfl rfl (.top rfl rfl)
  have noInterfaces : vaultStore.interfacesOfChain chain = .ok [] :=
    interfacesOfChain_of_empty (by decide)
  have isClass : vault.normalize.target.shape = .classType := rfl
  exact (members_isOk_iff (.inl isClass)).mp
    ⟨_, (members_eq_ok_iff (.inl isClass)).mpr ⟨chain, [], isChain, noInterfaces, rfl⟩⟩

theorem vaultStore_verdict :
    vaultStore.OfCatalogs ∧ ∃ p, vaultStore.planFor "a.Vault" = .ok p ∧
      vaultStore.Verdict "a.Vault" (.ok p) ∧
      p.constructors = [⟨[.primitive .int], [], .single .protectedAccess⟩,
        ⟨[], [.named "a.Jammed"], .single .publicAccess⟩] := by
  have built : vaultStore.OfCatalogs := .insert _ .empty
  have verdict := planFor_verdict built "a.Vault"
  have denotes : vaultStore.Denotes "a.Vault" vault := ⟨by cbv, rfl⟩
  have constructible : vault.IsConstructible :=
    .inr ⟨_, List.mem_cons_of_mem _ List.mem_cons_self, by decide⟩
  obtain ⟨p, ok⟩ : ∃ p, vaultStore.planFor "a.Vault" = .ok p :=
    verdict.accepts.mpr ⟨vault, denotes, by decide, by decide, by decide,
      soundAncestry_vaultStore, constructible⟩
  rw [ok] at verdict
  exact ⟨built, p, ok, verdict, (verdict.constructors p vault rfl denotes).1⟩

end Store
end JavaStubs
