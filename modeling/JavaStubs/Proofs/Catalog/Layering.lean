import JavaStubs.Proofs.Catalog.Normalization
import JavaStubs.Proofs.Catalog.OfCatalogs
import JavaStubs.Proofs.Outcome

/-!
# Layers of catalogs

A store is built by laying catalogs over the prelude. Under each name it holds what normalising makes
of the last declaration with that name, whatever stood there before; in what order the other
declarations came leaves no trace.
-/

namespace JavaStubs

def lastNamed? (name : String) (ds : List TypeDecl) : Option TypeDecl :=
  ds.reverse.find? fun d => d.name = name

theorem lastNamed?_cons (name : String) (d : TypeDecl) (ds : List TypeDecl) :
    lastNamed? name (d :: ds) =
      (lastNamed? name ds).or (if d.name = name then some d else none) := by
  rw [lastNamed?, List.reverse_cons, List.find?_append]
  by_cases h : d.name = name <;> simp [h, lastNamed?]

theorem mem_of_lastNamed? {name : String} {ds : List TypeDecl} {d : TypeDecl}
    (h : lastNamed? name ds = some d) : d ∈ ds ∧ d.name = name :=
  ⟨List.mem_reverse.mp (List.mem_of_find?_eq_some h), by simpa using List.find?_some h⟩

namespace Store

variable {s : Store}

/-- The prelude with catalogs laid over it in their order. -/
def layered (cs : List Catalog) : Store := cs.foldl insert prelude

theorem layered_eq_foldl (cs : List Catalog) :
    layered cs = (Prelude.catalog.types ++ cs.flatMap Catalog.types).foldl insertDecl empty := by
  rw [List.foldl_append, List.foldl_flatMap]
  rfl

theorem ofCatalogs_foldl (built : s.OfCatalogs) (cs : List Catalog) :
    (cs.foldl insert s).OfCatalogs := by
  induction cs generalizing s with
  | nil => exact built
  | cons c rest ih => exact ih (.insert c built)

/-- Of the inserted declarations with a name only the last one counts. -/
theorem find?_foldl_insertDecl (ds : List TypeDecl) (name : String) :
    (ds.foldl insertDecl s).find? name =
      ((lastNamed? name ds).map TypeDecl.normalize).or (s.find? name) := by
  induction ds generalizing s with
  | nil => rfl
  | cons d ds ih =>
    rw [List.foldl_cons, ih, find?_insertDecl, lastNamed?_cons]
    by_cases h : d.name = name <;> cases lastNamed? name ds <;> simp [h]

theorem find?_insert (c : Catalog) (name : String) :
    (s.insert c).find? name =
      ((lastNamed? name c.types).map TypeDecl.normalize).or (s.find? name) :=
  find?_foldl_insertDecl c.types name

theorem find?_insert_of_stored (built : s.OfCatalogs) {c : Catalog}
    (stored : ∀ d ∈ c.types, s.find? d.name = some d) (name : String) :
    (s.insert c).find? name = s.find? name := by
  rw [find?_insert]
  cases last : lastNamed? name c.types with
  | none => rfl
  | some d =>
    obtain ⟨mem, rfl⟩ := mem_of_lastNamed? last
    obtain ⟨e, rfl⟩ := built.normalized (stored d mem)
    rw [stored _ mem, Option.map_some, TypeDecl.normalize_normalize]
    rfl

theorem find?_insert_comm {c c' : Catalog}
    (apart : ∀ d ∈ c.types, ∀ d' ∈ c'.types, d.name ≠ d'.name) (name : String) :
    ((s.insert c).insert c').find? name = ((s.insert c').insert c).find? name := by
  simp only [find?_insert]
  cases last : lastNamed? name c.types with
  | none => rfl
  | some d =>
    cases last' : lastNamed? name c'.types with
    | none => rfl
    | some d' =>
      obtain ⟨mem, named⟩ := mem_of_lastNamed? last
      obtain ⟨mem', named'⟩ := mem_of_lastNamed? last'
      exact absurd (named.trans named'.symm) (apart d mem d' mem')

theorem nodup_names_insertDecl (distinct : (s.decls.map TypeDecl.name).Nodup) (d : TypeDecl) :
    ((s.insertDecl d).decls.map TypeDecl.name).Nodup := by
  rw [insertDecl, List.map_cons, List.nodup_cons, TypeDecl.name_normalize]
  constructor
  · simp
  · exact distinct.sublist (List.filter_sublist.map _)

theorem nodup_names_foldl (ds : List TypeDecl) (distinct : (s.decls.map TypeDecl.name).Nodup) :
    ((ds.foldl insertDecl s).decls.map TypeDecl.name).Nodup := by
  induction ds generalizing s with
  | nil => exact distinct
  | cons d rest ih => exact ih (nodup_names_insertDecl distinct d)

theorem find?_eq_some_iff_of_mem (distinct : (s.decls.map TypeDecl.name).Nodup) {e : TypeDecl}
    (mem : e ∈ s.decls) (name : String) : s.find? name = some e ↔ name = e.name := by
  constructor
  · exact fun found => (name_of_find? found).symm
  · rintro rfl
    exact Keyed.find?_of_mem distinct mem

/-- A store holds the declarations `ds` that were inserted one after another. -/
structure Layers (s : Store) (ds : List TypeDecl) : Prop where
  lastWins : ∀ name, s.find? name = (lastNamed? name ds).map TypeDecl.normalize
  keyed : ∀ e ∈ s.decls, ∀ name, s.find? name = some e ↔ name = e.name
  spellsOut : ∀ name e, s.find? name = some e →
    ∃ d, lastNamed? name ds = some d ∧ d.SpellsOut e
  again : ∀ c : Catalog, (∀ d ∈ c.types, s.find? d.name = some d) →
    ∀ name, (s.insert c).find? name = s.find? name
  commute : ∀ c c' : Catalog, (∀ d ∈ c.types, ∀ d' ∈ c'.types, d.name ≠ d'.name) →
    ∀ name, ((s.insert c).insert c').find? name = ((s.insert c').insert c).find? name

/-- Whatever catalogs are laid over the prelude, the last declaration of a name is the one that is
stored, with everything spelled out, and normalising is the end of it. -/
theorem layered_layers (cs : List Catalog) :
    (layered cs).Layers (Prelude.catalog.types ++ cs.flatMap Catalog.types) ∧
      ∀ d : TypeDecl, d.normalize.normalize = d.normalize := by
  have lastWins (name : String) : (layered cs).find? name =
      (lastNamed? name (Prelude.catalog.types ++ cs.flatMap Catalog.types)).map
        TypeDecl.normalize := by
    rw [layered_eq_foldl, find?_foldl_insertDecl]
    exact Option.or_none
  refine ⟨?_, TypeDecl.normalize_normalize⟩
  constructor
  case lastWins => exact lastWins
  case keyed =>
    have distinct : ((layered cs).decls.map TypeDecl.name).Nodup := by
      rw [layered_eq_foldl]
      exact nodup_names_foldl _ List.nodup_nil
    exact fun e mem name => find?_eq_some_iff_of_mem distinct mem name
  case spellsOut =>
    intro name e found
    obtain ⟨d, last, rfl⟩ := Option.map_eq_some_iff.mp ((lastWins name).symm.trans found)
    exact ⟨d, last, d.spellsOut_normalize⟩
  case again =>
    intro c stored
    exact find?_insert_of_stored (ofCatalogs_foldl ofCatalogs_prelude cs) stored
  case commute => exact fun c c' apart => find?_insert_comm apart

def lamp : TypeDecl := { name := "a.Lamp", kind := .enumType }

/-- An interface that a later catalog turns into an enum. -/
def lampCatalogs : List Catalog := [⟨[{ name := "a.Lamp", kind := .interfaceType }]⟩, ⟨[lamp]⟩]

theorem lampCatalogs_layers :
    (layered lampCatalogs).find? lamp.name = some lamp.normalize ∧
    lamp.normalize.superclass = some "java.lang.Enum" ∧
    ∀ name, ((layered lampCatalogs).insert ⟨[lamp.normalize]⟩).find? name =
      (layered lampCatalogs).find? name := by
  have layers := (layered_layers lampCatalogs).1
  have stored : (layered lampCatalogs).find? lamp.name = some lamp.normalize := layers.lastWins _
  obtain ⟨d, _, spelled⟩ := layers.spellsOut _ _ stored
  refine ⟨stored, (spelled.ofEnum rfl).2, layers.again _ ?_⟩
  simpa [TypeDecl.name_normalize] using stored

end Store
end JavaStubs
