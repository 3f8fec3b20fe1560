import JavaStubs.Catalog.Prelude
import JavaStubs.Proofs.Outcome

/-!
# Stores built from catalogs

A store starts empty and grows by catalogs, the prelude first. Whatever it then holds is normalised,
and a name that resolves to a class or an interface is the name of a declaration.
-/

namespace JavaStubs

theorem TypeDecl.shape_target (d : TypeDecl) :
    d.target.shape = if d.kind = .interfaceType then .interfaceType else .classType := by
  unfold TypeDecl.target
  cases d.kind <;> simp

theorem TypeDecl.declared_target (d : TypeDecl) :
    d.target.shape = .classType ∨ d.target.shape = .interfaceType := by
  rw [shape_target]
  split
  · exact .inr rfl
  · exact .inl rfl

theorem TypeDecl.isInterface_target (d : TypeDecl) :
    d.target.isInterface ↔ d.kind = .interfaceType := by
  simp [Target.isInterface, TypeDecl.shape_target]

namespace Store

variable {s : Store}

/-- The stores that catalogs can build. -/
inductive OfCatalogs : Store → Prop
  | empty : OfCatalogs .empty
  | insert {s : Store} (c : Catalog) : OfCatalogs s → OfCatalogs (s.insert c)

theorem ofCatalogs_prelude : OfCatalogs prelude := .insert _ .empty

theorem find?_insert_ind {P : TypeDecl → Prop} (normal : ∀ d : TypeDecl, P d.normalize)
    (old : ∀ name d, s.find? name = some d → P d) (c : Catalog) :
    ∀ name d, (s.insert c).find? name = some d → P d := by
  unfold insert
  induction c.types generalizing s with
  | nil => exact old
  | cons e rest ih =>
    refine ih fun name d found => ?_
    rw [find?_insertDecl] at found
    split at found
    · exact Option.some.inj found ▸ normal e
    · exact old name d found

theorem OfCatalogs.normalized (built : s.OfCatalogs) {name : String} {d : TypeDecl}
    (found : s.find? name = some d) : ∃ e : TypeDecl, d = e.normalize := by
  induction built generalizing name d with
  | empty => cases found
  | insert c _ ih =>
    exact find?_insert_ind (fun e => ⟨e, rfl⟩) (fun _ _ h => ih h) c name d found

theorem OfCatalogs.superclass_eq_none (built : s.OfCatalogs) {name : String} {d : TypeDecl}
    (found : s.find? name = some d) (isInterface : d.kind = .interfaceType) :
    d.superclass = none := by
  obtain ⟨e, rfl⟩ := built.normalized found
  revert isInterface
  unfold TypeDecl.normalize
  split <;> simp_all

theorem decl_eq_ok_iff {name : String} {d : TypeDecl} :
    s.decl name = .ok d ↔ s.find? name = some d := by
  unfold decl
  split <;> simp_all

/-- A text denotes a class or an interface exactly if it spells out the name of a declaration, and
then the target is the type that the declaration describes. -/
theorem resolve_declared_iff {text : String} {t : Target} :
    s.resolve text = .ok t ∧ (t.shape = .classType ∨ t.shape = .interfaceType) ↔
      ∃ d, TypeRef.parse text = .ok (.named d.name) ∧ s.find? d.name = some d ∧ t = d.target := by
  constructor
  · rintro ⟨resolved, declared⟩
    unfold resolve at resolved
    split at resolved
    case h_2 => cases resolved
    case h_1 ref parsed =>
      cases ref with
      | primitive p =>
        obtain rfl := Except.ok.inj resolved
        simp at declared
      | array element =>
        obtain ⟨inner, _, rest⟩ := Outcome.bind_eq_ok_iff.mp resolved
        obtain rfl := Except.ok.inj rest
        simp at declared
      | named name =>
        obtain ⟨d, found, rfl⟩ := Outcome.map_eq_ok_iff.mp resolved
        rw [decl_eq_ok_iff] at found
        obtain rfl := name_of_find? found
        exact ⟨d, parsed, found, rfl⟩
  · rintro ⟨d, parsed, found, rfl⟩
    refine ⟨?_, d.declared_target⟩
    simp only [resolve, parsed, resolveRef, decl_eq_ok_iff.mpr found, Except.map]

theorem resolve_declared {name : String} {t : Target} (resolved : s.resolve name = .ok t)
    (declared : t.shape = .classType ∨ t.shape = .interfaceType) :
    ∃ d, s.find? t.name = some d ∧ t = d.target := by
  obtain ⟨d, _, found, rfl⟩ := resolve_declared_iff.mp ⟨resolved, declared⟩
  exact ⟨d, found, rfl⟩

end Store
end JavaStubs
