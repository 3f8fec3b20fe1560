import JavaStubs.Document.Encode
import JavaStubs.Proofs.Document.Legible
import JavaStubs.Proofs.Outcome

/-!
# Writing a catalog and reading it again

A legible catalog is read back from its JSON form. The form lists every field of a record in the
order of their declaration, so reading it takes the fields in turn, and each field reads back what
was written for it.
-/

namespace JavaStubs
namespace Json

section Records

variable {α : Type} (shape : RecordShape Json α)

/-- The fields have different names, and what is required is a field. -/
structure IsSound : Prop where
  distinct : (shape.fields.map Field.name).Nodup
  required : ∀ n ∈ shape.required, n ∈ shape.fields.map Field.name

def takeInTurn (acc : α) (fields : List (Field Json α)) (values : List Json) :
    Except DocumentFault α :=
  (fields.zip values).foldlM (fun acc entry => entry.1.take entry.2 acc) acc

variable {shape}

theorem takeEntries_zip (sound : IsSound shape) {fields : List (Field Json α)} {values : List Json}
    {seen : List String} {acc : α} (sameLength : fields.length = values.length)
    (known : ∀ field ∈ fields, field ∈ shape.fields) (distinct : (fields.map Field.name).Nodup)
    (fresh : ∀ field ∈ fields, field.name ∉ seen)
    (covered : ∀ n ∈ shape.required, n ∈ seen ∨ n ∈ fields.map Field.name) :
    takeEntries shape seen acc
        (((fields.map Field.name).zip values).map fun (key, value) => (some key, value)) =
      takeInTurn acc fields values := by
  induction fields generalizing values seen acc with
  | nil =>
    obtain rfl := List.length_eq_zero_iff.mp sameLength.symm
    have complete : shape.missing? seen = none := by
      rw [RecordShape.missing?, List.find?_eq_none]
      simpa using covered
    simp [takeEntries, complete, takeInTurn, pure, Except.pure]
  | cons field fields ih =>
    cases values with
    | nil => cases sameLength
    | cons value values =>
      have found : shape.field? field.name = some field :=
        Keyed.find?_of_mem sound.distinct (known field List.mem_cons_self)
      have new : field.name ∉ seen := fresh field List.mem_cons_self
      rw [List.map_cons, List.nodup_cons] at distinct
      simp only [List.map_cons, List.zip_cons_cons, takeEntries, found, new, takeInTurn,
        List.foldlM_cons, ↓reduceIte]
      congr 1
      funext next
      apply ih (Nat.succ.inj sameLength) (fun g hg => known g (List.mem_cons_of_mem _ hg))
        distinct.2
      · intro g hg
        rw [List.mem_cons, not_or]
        refine ⟨?_, fresh g (List.mem_cons_of_mem _ hg)⟩
        intro same
        exact distinct.1 (same ▸ List.mem_map_of_mem hg)
      · intro n hn
        rcases covered n hn with old | here
        · exact .inl (List.mem_cons_of_mem _ old)
        · rcases List.mem_cons.mp here with rfl | later
          · exact .inl List.mem_cons_self
          · exact .inr later

/-- A record that lists all fields in their order takes a value into each of them. -/
theorem readRecord_record (sound : IsSound shape) {values : List Json}
    (sameLength : shape.fields.length = values.length) :
    readRecord shape (.record ((shape.fields.map Field.name).zip values)) =
      takeInTurn shape.blank shape.fields values :=
  takeEntries_zip sound sameLength (fun _ mem => mem) sound.distinct (by simp)
    fun n mem => .inr (sound.required n mem)

end Records

section Values

theorem list_map_of_inverse {α : Type} {read : Json → Except DocumentFault α} {write : α → Json}
    {l : List α} (inverse : ∀ a ∈ l, read (write a) = .ok a) :
    format.list read (.array (l.map write)) = .ok l :=
  Outcome.mapM_map_of_inverse inverse

theorem isAbsent_of_ne_null {v : Json} (h : v ≠ .null) : format.isAbsent v = .ok false := by
  cases v with
  | null => exact absurd rfl h
  | _ => rfl

theorem optional_optionToJson {α : Type} {read : Json → Except DocumentFault α} {write : α → Json}
    {o : Option α} (present : ∀ a ∈ o, write a ≠ .null)
    (inverse : ∀ a ∈ o, read (write a) = .ok a) :
    format.optional read (optionToJson write o) = .ok o := by
  cases o with
  | none => rfl
  | some a =>
    simp only [optionToJson, Format.optional, isAbsent_of_ne_null (present a rfl), inverse a rfl,
      bind, Except.bind]
    rfl

theorem typeRef_toJson {t : TypeRef} (denoted : t.IsDenoted) :
    format.typeRef t.toJson = .ok t := by
  have parsed := denoted.parse_binaryName
  simp only [Format.typeRef, TypeRef.toJson, format, readText, bind, Except.bind, parsed]

theorem typeRefs_toJson {l : List TypeRef} (denoted : ∀ t ∈ l, t.IsDenoted) :
    format.list format.typeRef (typeRefsToJson l) = .ok l :=
  list_map_of_inverse fun t mem => typeRef_toJson (denoted t mem)

theorem texts_toJson (l : List String) : format.list format.text (strings l) = .ok l :=
  list_map_of_inverse fun _ _ => rfl

theorem modifiers_toJson {m : Modifiers} (named : m.IsNamed) :
    format.modifiers m.toJson = .ok m := by
  simp only [Format.modifiers, Modifiers.toJson, texts_toJson, bind, Except.bind,
    named.ofKeywords_keywords]

theorem kind_toJson (k : TypeKind) : format.kind (.string k.word) = .ok k := by
  cases k <;> rfl

end Values

section Declarations

theorem method_toJson {m : MethodDecl} (legible : m.IsLegible) :
    format.record format.methodShape m.toJson = .ok m := by
  have sound : IsSound format.methodShape := ⟨by decide, by decide⟩
  have form : m.toJson = .record ((format.methodShape.fields.map Field.name).zip [.string m.name,
      typeRefsToJson m.params, m.returns.toJson, typeRefsToJson m.throws, m.modifiers.toJson,
      .bool m.isDefault]) := rfl
  change readRecord format.methodShape m.toJson = .ok m
  rw [form, readRecord_record sound rfl]
  simp only [takeInTurn, Format.methodShape, List.zip_cons_cons, List.zip_nil_right,
    List.foldlM_cons, List.foldlM_nil, typeRefs_toJson legible.params,
    typeRef_toJson legible.returns, typeRefs_toJson legible.throws,
    modifiers_toJson legible.modifiers]
  rfl

theorem constructor_toJson {c : ConstructorDecl} (legible : c.IsLegible) :
    format.record format.constructorShape c.toJson = .ok c := by
  have sound : IsSound format.constructorShape := ⟨by decide, by decide⟩
  have form : c.toJson = .record ((format.constructorShape.fields.map Field.name).zip
      [typeRefsToJson c.params, typeRefsToJson c.throws, c.modifiers.toJson]) := rfl
  change readRecord format.constructorShape c.toJson = .ok c
  rw [form, readRecord_record sound rfl]
  simp only [takeInTurn, Format.constructorShape, List.zip_cons_cons, List.zip_nil_right,
    List.foldlM_cons, List.foldlM_nil, typeRefs_toJson legible.params,
    typeRefs_toJson legible.throws, modifiers_toJson legible.modifiers]
  rfl

theorem type_toJson {d : TypeDecl} (legible : d.IsLegible) :
    format.record format.typeShape d.toJson = .ok d := by
  have sound : IsSound format.typeShape := ⟨by decide, by decide⟩
  have superclass : format.optional format.text (optionToJson .string d.superclass) =
      .ok d.superclass :=
    optional_optionToJson (fun _ _ => Json.noConfusion) fun _ _ => rfl
  have methods : format.list (format.record format.methodShape)
      (.array (d.methods.map MethodDecl.toJson)) = .ok d.methods :=
    list_map_of_inverse fun m mem => method_toJson (legible.methods m mem)
  have constructors : format.optional (format.list (format.record format.constructorShape))
      (optionToJson (fun cs => .array (cs.map ConstructorDecl.toJson)) d.constructors) =
      .ok d.constructors :=
    optional_optionToJson (fun _ _ => Json.noConfusion) fun cs listed =>
      list_map_of_inverse fun c mem => constructor_toJson (legible.constructors cs listed c mem)
  have form : d.toJson = .record ((format.typeShape.fields.map Field.name).zip [.string d.name,
      .string d.kind.word, d.modifiers.toJson, optionToJson .string d.superclass,
      strings d.interfaces, .array (d.methods.map MethodDecl.toJson),
      optionToJson (fun cs => .array (cs.map ConstructorDecl.toJson)) d.constructors]) := rfl
  change readRecord format.typeShape d.toJson = .ok d
  rw [form, readRecord_record sound rfl]
  simp only [takeInTurn, Format.typeShape, List.zip_cons_cons, List.zip_nil_right,
    List.foldlM_cons, List.foldlM_nil, kind_toJson, modifiers_toJson legible.modifiers, superclass,
    texts_toJson, methods, constructors]
  rfl

/-- The JSON form of a legible catalog describes that catalog. -/
theorem catalog_toJson {c : Catalog} (legible : c.IsLegible) :
    format.catalog c.toJson = .ok c := by
  have sound : IsSound format.catalogShape := ⟨by decide, by decide⟩
  have types : format.list (format.record format.typeShape) (.array (c.types.map TypeDecl.toJson)) =
      .ok c.types :=
    list_map_of_inverse fun d mem => type_toJson (legible d mem)
  have form : c.toJson = .record ((format.catalogShape.fields.map Field.name).zip
      [.array (c.types.map TypeDecl.toJson)]) := rfl
  change readRecord format.catalogShape c.toJson = .ok c
  rw [form, readRecord_record sound rfl]
  simp only [takeInTurn, Format.catalogShape, List.zip_cons_cons, List.zip_nil_right,
    List.foldlM_cons, List.foldlM_nil, types]
  rfl

end Declarations

theorem ofText_ofList (l : List Char) : ofText (String.ofList l) =
    (readValue (2 * l.length + 2) l).map id fun rest => rest.all fun s => (skipSpaces s).isEmpty := by
  rw [ofText, String.length_ofList, String.toList_ofList]
  rcases readValue (2 * l.length + 2) l with ⟨value, none | rest⟩ <;> rfl

end Json

namespace Catalog

/-- A type without a list of constructors is not written like one with an empty list. -/
theorem toJson_constructors_none_ne (d : TypeDecl) :
    TypeDecl.toJson { d with constructors := none } ≠
      TypeDecl.toJson { d with constructors := some [] } := by
  simp [TypeDecl.toJson, Json.record, optionToJson]

/-- What a document says survives being written as JSON and read again, whatever the format of the
document was. -/
theorem ofText_roundTrip {p : Path} {text : String} {c : Catalog}
    (decoded : Catalog.ofText p text = .ok c) :
    Json.format.catalog c.toJson = .ok c ∧
    (∀ printed, Json.ofText printed = (c.toJson, true) → Json.readCatalog printed = .ok c) ∧
    (∀ p' text' c', Catalog.ofText p' text' = .ok c' → c'.toJson = c.toJson → c' = c) ∧
    ∀ d : TypeDecl, TypeDecl.toJson { d with constructors := none } ≠
      TypeDecl.toJson { d with constructors := some [] } := by
  have again := Json.catalog_toJson (Catalog.isLegible_of_ofText decoded)
  refine ⟨again, ?_, ?_, toJson_constructors_none_ne⟩
  · intro printed faithful
    simp only [Json.readCatalog, faithful, again, bind, Except.bind]
    rfl
  · intro p' text' c' decoded' same
    have again' := Json.catalog_toJson (Catalog.isLegible_of_ofText decoded')
    rw [same, again] at again'
    exact (Except.ok.inj again').symm

def putDecl : MethodDecl where
  name := "put"
  params := [.array (.named "java.util.List")]
  modifiers := .ofList [.publicAccess, .transient]

def boxCatalog : Catalog := ⟨[{ name := "a.Box", constructors := some [], methods := [putDecl] }]⟩

/-- A document with type arguments, a variable number of parameters and repeated keywords. -/
def boxText : String :=
  "types:\n- name: a.Box\n  constructors: []\n  methods:\n  - name: put\n" ++
  "    params: [java.util.List<a.Box>...]\n    modifiers: [varargs, public, public]\n"

def boxJson : String :=
  "\x7b\"types\":[\x7b\"name\":\"a.Box\",\"kind\":\"class\",\"modifiers\":[],\"superclass\":null," ++
  "\"interfaces\":[],\"methods\":[\x7b\"name\":\"put\",\"params\":[\"java.util.List[]\"]," ++
  "\"returns\":\"void\",\"throws\":[],\"modifiers\":[\"public\",\"transient\"]," ++
  "\"default\":false\x7d],\"constructors\":[]\x7d]\x7d"

set_option maxRecDepth 2000 in
theorem ofText_boxJson : Json.ofText boxJson = (boxCatalog.toJson, true) := by
  have joined (a b c d : List Char) : String.ofList a ++ String.ofList b ++ String.ofList c ++
      String.ofList d = String.ofList (a ++ b ++ c ++ d) := by
    simp only [String.ofList_append]
  refine (congrArg Json.ofText (joined _ _ _ _)).trans ?_
  rw [Json.ofText_ofList]
  rfl

theorem boxText_roundTrip :
    Catalog.ofText (Path.ofString "box.yaml") boxText = .ok boxCatalog ∧
    Json.ofText boxJson = (boxCatalog.toJson, true) ∧
    Json.format.catalog boxCatalog.toJson = .ok boxCatalog ∧
    Json.readCatalog boxJson = .ok boxCatalog := by
  have decoded : Catalog.ofText (Path.ofString "box.yaml") boxText = .ok boxCatalog := by
    decide +kernel
  obtain ⟨again, printed, _, _⟩ := ofText_roundTrip decoded
  exact ⟨decoded, ofText_boxJson, again, printed boxJson ofText_boxJson⟩

end Catalog
end JavaStubs
