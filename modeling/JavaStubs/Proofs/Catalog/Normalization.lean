import JavaStubs.Catalog.Store
import Mathlib.Data.List.Forall2

/-!
# Normalised declarations

Before a declaration is stored, what its kind implies is spelled out. The methods of an interface get
the modifiers that the language implies, and constructors are listed whether or not the declaration
lists any. Normalising once more finds nothing left to add.
-/

namespace JavaStubs

namespace MethodDecl

variable {m : MethodDecl}

/-- As a method of an interface it has no body: it is neither private nor static, and no default. -/
structure IsBodiless (m : MethodDecl) : Prop where
  notPrivate : ¬ m.modifiers.has .privateAccess
  notStatic : ¬ m.modifiers.has .static
  notDefault : ¬ m.isDefault

theorem inInterface_of_private (hidden : m.modifiers.has .privateAccess) : m.inInterface = m :=
  if_pos hidden

theorem static_insert_public :
    (m.modifiers.insert .publicAccess).has .static ↔ m.modifiers.has .static := by
  simp [Modifiers.has_insert]

theorem inInterface_of_bodiless (h : m.IsBodiless) :
    m.inInterface =
      { m with modifiers := (m.modifiers.insert .publicAccess).insert .abstract } := by
  have implied : !m.isDefault && !(m.modifiers.insert .publicAccess).has .static := by
    simp only [Bool.and_eq_true, Bool.not_eq_true', ← Bool.not_eq_true, static_insert_public]
    exact ⟨h.notDefault, h.notStatic⟩
  unfold inInterface
  rw [if_neg h.notPrivate]
  exact if_pos implied

theorem inInterface_of_body (shown : ¬ m.modifiers.has .privateAccess) (h : ¬ m.IsBodiless) :
    m.inInterface = { m with modifiers := m.modifiers.insert .publicAccess } := by
  have notImplied : ¬ (!m.isDefault && !(m.modifiers.insert .publicAccess).has .static) := by
    intro implied
    simp only [Bool.and_eq_true, Bool.not_eq_true', ← Bool.not_eq_true, static_insert_public]
      at implied
    exact h ⟨shown, implied.2, implied.1⟩
  unfold inInterface
  rw [if_neg shown]
  exact if_neg notImplied

/-- Nothing but the modifiers of a method depends on whether an interface declares it. -/
theorem inInterface_eq_with (m : MethodDecl) :
    m.inInterface = { m with modifiers := m.inInterface.modifiers } := by
  by_cases hidden : m.modifiers.has .privateAccess
  · rw [inInterface_of_private hidden]
  · by_cases bodiless : m.IsBodiless
    · rw [inInterface_of_bodiless bodiless]
    · rw [inInterface_of_body hidden bodiless]

/-- In an interface a method that is not private becomes public, and abstract if it has no body. Its
other modifiers are those that it was declared with. -/
theorem has_inInterface (m : MethodDecl) (k : Modifier) :
    m.inInterface.modifiers.has k ↔ m.modifiers.has k ∨
      (k = .publicAccess ∧ ¬ m.modifiers.has .privateAccess) ∨ (k = .abstract ∧ m.IsBodiless) := by
  by_cases hidden : m.modifiers.has .privateAccess
  · have withBody : ¬ m.IsBodiless := fun h => h.notPrivate hidden
    simp [inInterface_of_private hidden, hidden, withBody]
  · by_cases bodiless : m.IsBodiless
    · simp [inInterface_of_bodiless bodiless, Modifiers.has_insert, hidden, bodiless, or_assoc,
        eq_comm (a := k)]
    · simp [inInterface_of_body hidden bodiless, Modifiers.has_insert, hidden, bodiless,
        eq_comm (a := k)]

theorem inInterface_eq_self (isPublic : m.modifiers.has .publicAccess)
    (isAbstract : m.IsBodiless → m.modifiers.has .abstract) : m.inInterface = m := by
  by_cases hidden : m.modifiers.has .privateAccess
  · exact inInterface_of_private hidden
  · have same := Modifiers.insert_of_has isPublic
    by_cases bodiless : m.IsBodiless
    · rw [inInterface_of_bodiless bodiless, same, Modifiers.insert_of_has (isAbstract bodiless)]
    · rw [inInterface_of_body hidden bodiless, same]

theorem IsBodiless.of_inInterface (h : m.inInterface.IsBodiless) : m.IsBodiless := by
  have kept (k : Modifier) (declared : m.modifiers.has k) : m.inInterface.modifiers.has k :=
    (has_inInterface m k).mpr (.inl declared)
  have notDefault := h.notDefault
  rw [inInterface_eq_with] at notDefault
  exact ⟨mt (kept _) h.notPrivate, mt (kept _) h.notStatic, notDefault⟩

theorem inInterface_inInterface (m : MethodDecl) : m.inInterface.inInterface = m.inInterface := by
  by_cases hidden : m.modifiers.has .privateAccess
  · rw [inInterface_of_private hidden, inInterface_of_private hidden]
  · apply inInterface_eq_self
    · exact (has_inInterface m _).mpr (.inr (.inl ⟨rfl, hidden⟩))
    · intro bodiless
      exact (has_inInterface m _).mpr (.inr (.inr ⟨rfl, bodiless.of_inInterface⟩))

end MethodDecl

/-- What an interface makes of a method that it declares as `m`. -/
structure MethodDecl.InterfaceForm (m n : MethodDecl) : Prop where
  declared : n = { m with modifiers := n.modifiers }
  access : m.modifiers.has .privateAccess ∧ n.modifiers = m.modifiers ∨
    n.modifiers.has .publicAccess
  isAbstract_iff : n.isAbstract ↔ m.isAbstract ∨ m.IsBodiless

theorem MethodDecl.interfaceForm_inInterface (m : MethodDecl) : m.InterfaceForm m.inInterface := by
  constructor
  case declared => exact m.inInterface_eq_with
  case access =>
    by_cases hidden : m.modifiers.has .privateAccess
    · exact .inl ⟨hidden, by rw [inInterface_of_private hidden]⟩
    · exact .inr ((has_inInterface m _).mpr (.inr (.inl ⟨rfl, hidden⟩)))
  case isAbstract_iff => simp [isAbstract, has_inInterface]

namespace TypeDecl

/-- The constructors of the type that a catalog declares. An interface has none, and a class without
a list has the implicit one. -/
def offered (d : TypeDecl) : List ConstructorDecl :=
  if d.kind = .interfaceType then [] else d.constructors.getD [implicitConstructor d.modifiers]

variable (d : TypeDecl)

theorem name_target_normalize : d.normalize.target.name = d.name := d.name_normalize

theorem kind_normalize : d.normalize.kind = d.kind := by
  unfold normalize
  split <;> simp_all

theorem implicitConstructor_insert_final (m : Modifiers) :
    implicitConstructor (m.insert .final) = implicitConstructor m := by
  have outside : (Modifiers.single .final).bits &&& Modifiers.access.bits = 0#16 := rfl
  have bits : (m.insert .final).bits &&& Modifiers.access.bits =
      m.bits &&& Modifiers.access.bits := by
    rw [Modifiers.insert, Modifiers.union_bits, BitVec.and_or_distrib_right, outside,
      BitVec.or_zero]
  rw [implicitConstructor, implicitConstructor, Modifiers.inter, Modifiers.inter, bits]

theorem constructors_normalize : d.normalize.constructors = some d.offered := by
  unfold normalize offered
  split <;> simp_all [implicitConstructor_insert_final]

theorem has_final_normalize :
    d.normalize.modifiers.has .final ↔ d.modifiers.has .final ∨ d.kind = .enumType := by
  unfold normalize
  split <;> simp_all [Modifiers.has_insert]

variable {d}

theorem normalize_of_interface (h : d.kind = .interfaceType) :
    d.normalize =
      { d with
        modifiers := (d.modifiers.insert .interface).insert .abstract
        superclass := none
        methods := d.methods.map MethodDecl.inInterface
        constructors := some [] } := by
  simp only [normalize, h]

theorem normalize_of_enum (h : d.kind = .enumType) :
    d.normalize =
      { d with
        modifiers := d.modifiers.insert .final
        superclass := some enumBase
        constructors := some d.offered } := by
  have listed := d.constructors_normalize
  simp only [normalize, h] at listed ⊢
  rw [listed]

theorem normalize_of_class (h : d.kind = .classType) :
    d.normalize =
      { d with
        superclass :=
          if d.superclass.isNone && d.name != rootClass then some rootClass else d.superclass
        constructors := some d.offered } := by
  have listed := d.constructors_normalize
  simp only [normalize, h] at listed ⊢
  rw [listed]

/-- The declaration `e` spells out what the kind of the declaration `d` implies. -/
structure SpellsOut (d e : TypeDecl) : Prop where
  name : e.name = d.name
  kind : e.kind = d.kind
  listed : e.constructors.isSome
  ofInterface : e.kind = .interfaceType → e.modifiers.has .abstract ∧ e.modifiers.has .interface ∧
    e.superclass = none ∧ e.constructors = some [] ∧
    List.Forall₂ MethodDecl.InterfaceForm d.methods e.methods
  ofEnum : e.kind = .enumType → e.modifiers.has .final ∧ e.superclass = some "java.lang.Enum"
  ofClass : e.kind = .classType → e.superclass = none → e.name = "java.lang.Object"
  implicit : e.kind ≠ .interfaceType → d.constructors = none →
    e.constructors = some [⟨[], [],
      e.modifiers.inter (.ofList [.publicAccess, .protectedAccess, .privateAccess])⟩]

theorem implicitConstructor_normalize (notInterface : d.kind ≠ .interfaceType) :
    implicitConstructor d.normalize.modifiers = implicitConstructor d.modifiers := by
  cases h : d.kind with
  | interfaceType => exact absurd h notInterface
  | enumType => rw [normalize_of_enum h, implicitConstructor_insert_final]
  | classType => rw [normalize_of_class h]

theorem spellsOut_normalize (d : TypeDecl) : d.SpellsOut d.normalize := by
  constructor
  case name => exact d.name_normalize
  case kind => exact d.kind_normalize
  case listed => rw [constructors_normalize, Option.isSome_some]
  case ofInterface =>
    intro h
    rw [kind_normalize] at h
    rw [normalize_of_interface h]
    refine ⟨?_, ?_, rfl, rfl, ?_⟩
    · simp [Modifiers.has_insert]
    · simp [Modifiers.has_insert]
    · simp [List.forall₂_map_right_iff, List.forall₂_same, MethodDecl.interfaceForm_inInterface]
  case ofEnum =>
    intro h
    rw [kind_normalize] at h
    rw [normalize_of_enum h]
    exact ⟨by simp [Modifiers.has_insert], rfl⟩
  case ofClass =>
    intro h noSuperclass
    rw [kind_normalize] at h
    rw [normalize_of_class h] at noSuperclass ⊢
    by_contra notRoot
    change d.name ≠ rootClass at notRoot
    cases parent : d.superclass <;> simp [parent, notRoot] at noSuperclass
  case implicit =>
    intro notInterface absent
    rw [kind_normalize] at notInterface
    have access := implicitConstructor_normalize notInterface
    rw [constructors_normalize, offered, if_neg notInterface, absent, Option.getD_none, ← access]
    rfl

theorem offered_normalize (d : TypeDecl) : d.normalize.offered = d.offered := by
  rw [offered, kind_normalize, constructors_normalize, Option.getD_some]
  split
  case isTrue h => exact (if_pos h).symm
  case isFalse => rfl

/-- A normalised declaration has nothing left to spell out. -/
theorem normalize_normalize (d : TypeDecl) : d.normalize.normalize = d.normalize := by
  have listed := d.offered_normalize
  have kind := d.kind_normalize
  cases h : d.kind with
  | interfaceType =>
    have modifiers : (d.normalize.modifiers.insert .interface).insert .abstract =
        d.normalize.modifiers := by
      have spelled := d.spellsOut_normalize.ofInterface (kind.trans h)
      rw [Modifiers.insert_of_has spelled.2.1, Modifiers.insert_of_has spelled.1]
    have methods : d.normalize.methods.map MethodDecl.inInterface = d.normalize.methods := by
      simp [normalize_of_interface h, MethodDecl.inInterface_inInterface]
    rw [normalize_of_interface (kind.trans h), modifiers, methods, normalize_of_interface h]
  | enumType =>
    have modifiers : d.normalize.modifiers.insert .final = d.normalize.modifiers :=
      Modifiers.insert_of_has (d.spellsOut_normalize.ofEnum (kind.trans h)).1
    rw [normalize_of_enum (kind.trans h), modifiers, listed, normalize_of_enum h]
  | classType =>
    rw [normalize_of_class (kind.trans h), listed, normalize_of_class h]
    cases parent : d.superclass with
    | some name => simp
    | none => by_cases root : d.name = rootClass <;> simp [root]

end TypeDecl
end JavaStubs
