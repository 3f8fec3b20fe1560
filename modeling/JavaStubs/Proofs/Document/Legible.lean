import JavaStubs.Document.Load
import JavaStubs.Proofs.Outcome
import JavaStubs.Proofs.Types.Keywords
import JavaStubs.Proofs.Types.TypeNames

/-!
# What catalog documents can say

Whatever the format of a document, the types in the catalog that is read from it are denoted by some
text and its modifiers are named by keywords. Each record is read field by field, so it is enough to
look at what one field puts into a record.
-/

namespace JavaStubs

structure MethodDecl.IsLegible (m : MethodDecl) : Prop where
  params : ∀ t ∈ m.params, t.IsDenoted
  returns : m.returns.IsDenoted
  throws : ∀ t ∈ m.throws, t.IsDenoted
  modifiers : m.modifiers.IsNamed

structure ConstructorDecl.IsLegible (c : ConstructorDecl) : Prop where
  params : ∀ t ∈ c.params, t.IsDenoted
  throws : ∀ t ∈ c.throws, t.IsDenoted
  modifiers : c.modifiers.IsNamed

/-- The declaration of some catalog document. -/
structure TypeDecl.IsLegible (d : TypeDecl) : Prop where
  modifiers : d.modifiers.IsNamed
  methods : ∀ m ∈ d.methods, m.IsLegible
  constructors : ∀ cs ∈ d.constructors, ∀ c ∈ cs, c.IsLegible

def Catalog.IsLegible (c : Catalog) : Prop := ∀ d ∈ c.types, d.IsLegible

namespace Format

variable {ν : Type} (f : Format ν)

/-- What holds of a blank record, and what every field keeps up, holds of each record that is read. -/
def ReadsByFields : Prop :=
  ∀ {α : Type} (shape : RecordShape ν α) (P : α → Prop), P shape.blank →
    (∀ field ∈ shape.fields, ∀ node a b, P a → field.take node a = .ok b → P b) →
    ∀ node a, f.record shape node = .ok a → P a

variable {f}

theorem forall_of_list {α : Type} {read : ν → Except DocumentFault α} {P : α → Prop}
    (each : ∀ node a, read node = .ok a → P a) {node : ν} {l : List α}
    (ok : f.list read node = .ok l) : ∀ a ∈ l, P a := by
  obtain ⟨items, _, ok⟩ := Outcome.bind_eq_ok_iff.mp ok
  exact Outcome.forall_of_mapM each ok

theorem forall_of_optional {α : Type} {read : ν → Except DocumentFault α} {P : α → Prop}
    (each : ∀ node a, read node = .ok a → P a) {node : ν} {o : Option α}
    (ok : f.optional read node = .ok o) : ∀ a ∈ o, P a := by
  obtain ⟨absent, _, ok⟩ := Outcome.bind_eq_ok_iff.mp ok
  split at ok
  case isTrue =>
    obtain rfl := Except.ok.inj ok
    simp
  case isFalse =>
    obtain ⟨a, present, ok⟩ := Outcome.bind_eq_ok_iff.mp ok
    obtain rfl := Except.ok.inj ok
    simpa using each node a present

theorem isDenoted_of_typeRef {node : ν} {t : TypeRef} (ok : f.typeRef node = .ok t) :
    t.IsDenoted := by
  obtain ⟨text, _, ok⟩ := Outcome.bind_eq_ok_iff.mp ok
  split at ok
  case h_1 parsed =>
    obtain rfl := Except.ok.inj ok
    exact TypeRef.isDenoted_of_parse parsed
  case h_2 => cases ok

theorem isNamed_of_modifiers {node : ν} {m : Modifiers} (ok : f.modifiers node = .ok m) :
    m.IsNamed := by
  obtain ⟨words, _, ok⟩ := Outcome.bind_eq_ok_iff.mp ok
  split at ok
  case h_1 named =>
    obtain rfl := Except.ok.inj ok
    exact Modifiers.isNamed_of_ofKeywords named
  case h_2 => cases ok

theorem isLegible_of_method (byFields : f.ReadsByFields) {node : ν} {m : MethodDecl}
    (ok : f.record f.methodShape node = .ok m) : m.IsLegible := by
  refine byFields f.methodShape MethodDecl.IsLegible ?blank ?field node m ok
  case blank =>
    exact ⟨by simp [methodShape], .primitive (n := 0) (.inl rfl), by simp [methodShape],
      Modifiers.isNamed_none⟩
  case field =>
    intro field mem node a b legible ok
    simp only [methodShape, List.mem_cons, List.not_mem_nil, or_false] at mem
    rcases mem with rfl | rfl | rfl | rfl | rfl | rfl
    all_goals
      obtain ⟨value, read, ok⟩ := Outcome.bind_eq_ok_iff.mp ok
      obtain rfl := Except.ok.inj ok
    · exact { legible with }
    · exact { legible with params := forall_of_list (fun _ _ => isDenoted_of_typeRef) read }
    · exact { legible with returns := isDenoted_of_typeRef read }
    · exact { legible with throws := forall_of_list (fun _ _ => isDenoted_of_typeRef) read }
    · exact { legible with modifiers := isNamed_of_modifiers read }
    · exact { legible with }

theorem isLegible_of_constructor (byFields : f.ReadsByFields) {node : ν} {c : ConstructorDecl}
    (ok : f.record f.constructorShape node = .ok c) : c.IsLegible := by
  refine byFields f.constructorShape ConstructorDecl.IsLegible ?blank ?field node c ok
  case blank =>
    exact ⟨by simp [constructorShape], by simp [constructorShape], Modifiers.isNamed_none⟩
  case field =>
    intro field mem node a b legible ok
    simp only [constructorShape, List.mem_cons, List.not_mem_nil, or_false] at mem
    rcases mem with rfl | rfl | rfl
    all_goals
      obtain ⟨value, read, ok⟩ := Outcome.bind_eq_ok_iff.mp ok
      obtain rfl := Except.ok.inj ok
    · exact { legible with params := forall_of_list (fun _ _ => isDenoted_of_typeRef) read }
    · exact { legible with throws := forall_of_list (fun _ _ => isDenoted_of_typeRef) read }
    · exact { legible with modifiers := isNamed_of_modifiers read }

theorem isLegible_of_type (byFields : f.ReadsByFields) {node : ν} {d : TypeDecl}
    (ok : f.record f.typeShape node = .ok d) : d.IsLegible := by
  refine byFields f.typeShape TypeDecl.IsLegible ?blank ?field node d ok
  case blank => exact ⟨Modifiers.isNamed_none, by simp [typeShape], by simp [typeShape]⟩
  case field =>
    intro field mem node a b legible ok
    simp only [typeShape, List.mem_cons, List.not_mem_nil, or_false] at mem
    rcases mem with rfl | rfl | rfl | rfl | rfl | rfl | rfl
    all_goals
      obtain ⟨value, read, ok⟩ := Outcome.bind_eq_ok_iff.mp ok
      obtain rfl := Except.ok.inj ok
    · exact { legible with }
    · exact { legible with }
    · exact { legible with modifiers := isNamed_of_modifiers read }
    · exact { legible with }
    · exact { legible with }
    · exact { legible with
        methods := forall_of_list (fun _ _ => isLegible_of_method byFields) read }
    · exact { legible with
        constructors := forall_of_optional
          (fun _ _ => forall_of_list fun _ _ => isLegible_of_constructor byFields) read }

theorem isLegible_of_catalog (byFields : f.ReadsByFields) {node : ν} {c : Catalog}
    (ok : f.catalog node = .ok c) : c.IsLegible := by
  refine byFields f.catalogShape Catalog.IsLegible ?blank ?field node c ok
  case blank => simp [Catalog.IsLegible, catalogShape]
  case field =>
    intro field mem node a b _ ok
    simp only [catalogShape, List.mem_cons, List.not_mem_nil, or_false] at mem
    obtain rfl := mem
    obtain ⟨types, read, ok⟩ := Outcome.bind_eq_ok_iff.mp ok
    obtain rfl := Except.ok.inj ok
    exact forall_of_list (fun _ _ => isLegible_of_type byFields) read

end Format

theorem RecordShape.mem_of_field? {ν α : Type} {shape : RecordShape ν α} {name : String}
    {field : Field ν α} (h : shape.field? name = some field) : field ∈ shape.fields :=
  List.mem_of_find?_eq_some h

namespace Json

variable {α : Type} {shape : RecordShape Json α} {P : α → Prop}

theorem holds_of_takeEntries
    (kept : ∀ field ∈ shape.fields, ∀ node a b, P a → field.take node a = .ok b → P b)
    {entries : List (Option String × Json)} {seen : List String} {acc a : α} (start : P acc)
    (ok : takeEntries shape seen acc entries = .ok a) : P a := by
  fun_induction takeEntries shape seen acc entries with
  | case1 => cases ok
  | case2 => exact Except.ok.inj ok ▸ start
  | case3 => cases ok
  | case4 => cases ok
  | case5 seen acc key value rest field found new ih =>
    obtain ⟨next, taken, ok⟩ := Outcome.bind_eq_ok_iff.mp ok
    exact ih next (kept field (RecordShape.mem_of_field? found) value acc next start taken) ok
  | case6 seen acc key value rest unknown wellFormed ih => exact ih start ok
  | case7 => cases ok

theorem holds_of_takeItems {fields : List (Field Json α)}
    (kept : ∀ field ∈ fields, ∀ node a b, P a → field.take node a = .ok b → P b)
    {items : List Json} {i : Nat} {acc a : α} (start : P acc)
    (ok : takeItems shape i acc fields items = .ok a) : P a := by
  fun_induction takeItems shape i acc fields items with
  | case1 => cases ok
  | case2 => exact Except.ok.inj ok ▸ start
  | case3 => cases ok
  | case4 i acc field fields item items ih =>
    obtain ⟨next, taken, ok⟩ := Outcome.bind_eq_ok_iff.mp ok
    have holds := kept field List.mem_cons_self item acc next start taken
    exact ih next (fun g hg => kept g (List.mem_cons_of_mem _ hg)) holds ok

theorem readsByFields : format.ReadsByFields := by
  intro α shape P blank kept node a ok
  change readRecord shape node = .ok a at ok
  unfold readRecord at ok
  split at ok
  · exact holds_of_takeEntries kept blank ok
  · exact holds_of_takeItems kept blank ok
  · cases ok

end Json

namespace Yaml

variable {α : Type} {anchors : List (Nat × Node)} {shape : RecordShape Node α} {P : α → Prop}

theorem holds_of_takeEntries
    (kept : ∀ field ∈ shape.fields, ∀ node a b, P a → field.take node a = .ok b → P b)
    {entries : List (Node × Node)} {seen : List String} {acc a : α} (start : P acc)
    (ok : takeEntries anchors shape seen acc entries = .ok a) : P a := by
  induction entries generalizing seen acc with
  | nil =>
    rw [takeEntries] at ok
    split at ok
    · cases ok
    · exact Except.ok.inj ok ▸ start
  | cons entry rest ih =>
    obtain ⟨key, value⟩ := entry
    rw [takeEntries] at ok
    obtain ⟨name, _, ok⟩ := Outcome.bind_eq_ok_iff.mp ok
    dsimp only at ok
    split at ok
    case h_1 field found =>
      split at ok
      case isTrue => cases ok
      case isFalse =>
        obtain ⟨next, taken, ok⟩ := Outcome.bind_eq_ok_iff.mp ok
        exact ih (kept field (RecordShape.mem_of_field? found) value acc next start taken) ok
    case h_2 => exact ih start ok

theorem readsByFields (anchors : List (Nat × Node)) : (format anchors).ReadsByFields := by
  intro α shape P blank kept node a ok
  change readRecord anchors shape node = .ok a at ok
  unfold readRecord at ok
  split at ok
  · exact holds_of_takeEntries kept blank ok
  · split at ok
    · exact holds_of_takeEntries kept blank ok
    · cases ok
  · cases ok

end Yaml

theorem Json.isLegible_of_readCatalog {text : String} {c : Catalog} (ok : readCatalog text = .ok c) :
    c.IsLegible := by
  unfold readCatalog at ok
  split at ok
  rename_i value complete _
  obtain ⟨catalog, read, ok⟩ := Outcome.bind_eq_ok_iff.mp ok
  split at ok
  case isTrue =>
    obtain rfl := Except.ok.inj ok
    exact Format.isLegible_of_catalog readsByFields read
  case isFalse => cases ok

theorem Yaml.isLegible_of_readCatalog {text : String} {c : Catalog} (ok : readCatalog text = .ok c) :
    c.IsLegible := by
  unfold readCatalog at ok
  split at ok
  case h_1 root _ =>
    rw [Outcome.mapError_eq_ok_iff] at ok
    exact Format.isLegible_of_catalog (readsByFields _) ok
  case h_2 => cases ok

/-- A catalog that is read from a document is one that documents can say, whatever the format. -/
theorem Catalog.isLegible_of_ofText {p : Path} {text : String} {c : Catalog}
    (ok : Catalog.ofText p text = .ok c) : c.IsLegible := by
  unfold ofText at ok
  split at ok
  case isTrue => exact Json.isLegible_of_readCatalog ok
  case isFalse => exact Yaml.isLegible_of_readCatalog ok

end JavaStubs
