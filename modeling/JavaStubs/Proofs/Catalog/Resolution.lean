import JavaStubs.Proofs.Catalog.Normalization
import JavaStubs.Proofs.Catalog.OfCatalogs
import JavaStubs.Proofs.Types.TypeNames

/-!
# Resolution

A text resolves if it denotes a type whose innermost element is primitive or declared. The target is
named by the binary name of the type, so that this name resolves to the same target again. Arrays are
as accessible as their innermost elements, however many dimensions they have.
-/

namespace JavaStubs

open TypeRef (parse erase parse_eq_ok_iff isDenoted_of_parse)

namespace Modifiers

def ofArray (s : Modifiers) : Modifiers :=
  ((s.inter (.ofList [.publicAccess, .protectedAccess, .privateAccess])).insert .abstract).insert
    .final

/-- Access is all that an array takes over, and it takes over the same from an array. -/
theorem ofArray_ofArray (s : Modifiers) : s.ofArray.ofArray = s.ofArray := by
  have masked : s.ofArray = ((s.inter .access).insert .abstract).insert .final := rfl
  have outside (m : Modifier) (h : (single m).bits &&& access.bits = 0#16) (r : Modifiers) :
      (r.insert m).bits &&& access.bits = r.bits &&& access.bits := by
    rw [insert, union_bits, BitVec.and_or_distrib_right, h, BitVec.or_zero]
  have same : s.ofArray.bits &&& access.bits = s.bits &&& access.bits := by
    rw [masked, outside .final rfl, outside .abstract rfl, inter, BitVec.and_assoc,
      BitVec.and_self]
  calc s.ofArray.ofArray
    _ = (Modifiers.insert ⟨s.ofArray.bits &&& access.bits⟩ .abstract).insert .final := rfl
    _ = s.ofArray := by
      rw [same]
      rfl

end Modifiers

namespace Store

variable {s : Store} {text : String} {t : TypeRef} {target : Target}

inductive BaseTarget (s : Store) : TypeRef → Target → Prop
  | primitive (p : Primitive) : BaseTarget s (.primitive p)
      ⟨p.keyword, .primitive, .ofList [.publicAccess, .abstract, .final]⟩
  | declared {name : String} {d : TypeDecl} (found : s.find? name = some d) :
      BaseTarget s (.named name)
        ⟨name, if d.kind = .interfaceType then .interfaceType else .classType, d.modifiers⟩

/-- The target of a type whose innermost element has the target `base`. -/
def arrayTarget (t : TypeRef) (base : Target) : Target :=
  if t.dimensions = 0 then base else ⟨t.binaryName, .array, base.modifiers.ofArray⟩

theorem resolveRef_of_baseTarget {base : Target} (h : s.BaseTarget t base) :
    s.resolveRef t = .ok base := by
  cases h with
  | primitive p => rfl
  | @declared name d found =>
    obtain rfl := name_of_find? found
    rw [resolveRef, decl_eq_ok_iff.mpr found, ← d.shape_target]
    rfl

/-- The target of an array depends on its innermost elements only. -/
theorem resolveRef_eq_map (s : Store) (t : TypeRef) :
    s.resolveRef t = (s.resolveRef t.innermost).map (arrayTarget t) := by
  induction t with
  | primitive p => rfl
  | named name =>
    have plain : arrayTarget (.named name) = id := rfl
    cases h : s.resolveRef (.named name) <;> simp [TypeRef.innermost, h, Except.map, plain]
  | array element ih =>
    rw [resolveRef, ih, TypeRef.innermost]
    cases s.resolveRef element.innermost with
    | error e => rfl
    | ok base =>
      have access : (arrayTarget element base).modifiers.ofArray = base.modifiers.ofArray := by
        unfold arrayTarget
        split
        case isTrue => rfl
        case isFalse => exact base.modifiers.ofArray_ofArray
      have taken : arrayTarget (.array element) base =
          ⟨(TypeRef.array element).binaryName, .array, base.modifiers.ofArray⟩ := rfl
      rw [Except.map, Except.map, taken, ← access]
      rfl

theorem name_of_resolveRef (ok : s.resolveRef t = .ok target) : target.name = t.binaryName := by
  cases t with
  | primitive p =>
    obtain rfl := Except.ok.inj ok
    rfl
  | array element =>
    obtain ⟨inner, _, rest⟩ := Outcome.bind_eq_ok_iff.mp ok
    obtain rfl := Except.ok.inj rest
    rfl
  | named name =>
    obtain ⟨d, found, rfl⟩ := Outcome.map_eq_ok_iff.mp ok
    exact name_of_find? (decl_eq_ok_iff.mp found)

theorem resolve_of_parse (read : parse text = .ok t) : s.resolve text = s.resolveRef t := by
  simp only [resolve, read]

/-- A text `text` that denotes the type `t` resolves to `target`, where `base` is the target of the
innermost elements of `t`. -/
structure ResolvesTo (s : Store) (text : String) (t : TypeRef) (base target : Target) : Prop where
  isBase : s.BaseTarget t.innermost base
  resolved : s.resolve text = .ok target
  again : s.resolve target.name = .ok target
  sameErasure : ∀ text', erase text'.toList = erase text.toList → s.resolve text' = .ok target
  plain : t.dimensions = 0 → target = base
  array : 0 < t.dimensions → target = ⟨t.binaryName, .array, base.modifiers.ofArray⟩

structure Resolution (s : Store) (text : String) : Prop where
  malformed : ∀ m, parse text = .error m → s.resolve text = .error (.unresolved text)
  undeclared : ∀ t name, parse text = .ok t → t.innermost = .named name → s.find? name = none →
    s.resolve text = .error (.unresolved name)
  resolved : ∀ t, parse text = .ok t →
    (∀ name, t.innermost = .named name → s.find? name ≠ none) →
    ∃ base target, s.ResolvesTo text t base target
  normalized : s.OfCatalogs → ∀ name d, s.find? name = some d → d.normalize = d

theorem exists_baseTarget (declared : ∀ name, t.innermost = .named name → s.find? name ≠ none) :
    ∃ base, s.BaseTarget t.innermost base := by
  induction t with
  | primitive p => exact ⟨_, .primitive p⟩
  | array element ih => exact ih declared
  | named name =>
    obtain ⟨d, found⟩ := Option.ne_none_iff_exists'.mp (declared name rfl)
    exact ⟨_, .declared found⟩

theorem resolution_of_text (s : Store) (text : String) : s.Resolution text := by
  constructor
  case malformed =>
    intro m failed
    simp only [resolve, failed]
  case undeclared =>
    intro t name read innermost undeclared
    rw [resolve_of_parse read, resolveRef_eq_map, innermost, resolveRef, decl, undeclared]
    rfl
  case resolved =>
    intro t read declared
    obtain ⟨base, isBase⟩ := exists_baseTarget declared
    have resolved : s.resolveRef t = .ok (arrayTarget t base) := by
      rw [resolveRef_eq_map, resolveRef_of_baseTarget isBase]
      rfl
    refine ⟨base, arrayTarget t base, isBase, ?_, ?_, ?_, ?_, ?_⟩
    · rw [resolve_of_parse read, resolved]
    · have read' := (isDenoted_of_parse read).parse_binaryName
      rw [name_of_resolveRef resolved, resolve_of_parse read', resolved]
    · intro text' same
      have read' : parse text' = .ok t := by
        rw [parse_eq_ok_iff] at read ⊢
        rwa [same]
      rw [resolve_of_parse read', resolved]
    · exact fun plain => if_pos plain
    · exact fun positive => if_neg (Nat.ne_of_gt positive)
  case normalized =>
    intro built name d found
    obtain ⟨e, rfl⟩ := built.normalized found
    exact e.normalize_normalize

end Store
end JavaStubs
