import JavaStubs.Catalog.Declaration
import JavaStubs.Text.Unicode

/-!
# Document formats

The catalog schema says which fields a record has and what their values are. A format says how those
values are written in a tree of nodes. Reading a catalog is the schema applied to a format, and fails
with the first fault of the document.
-/

namespace JavaStubs

inductive DocumentFault
  /-- The bytes are no text. -/
  | notText (m : Text.Utf8.Malformed)
  /-- A YAML document that is malformed or describes no catalog. -/
  | yaml
  /-- A JSON document that is malformed. -/
  | malformed
  /-- A record without a field that it must have. -/
  | missingField (name : String)
  | duplicateField (name : String)
  /-- A record written as a list that ends before a field that it must have. -/
  | tooShort (length : Nat) (record : String) (fields : Nat)
  | wrongType (found expected : String)
  | unknownKind (word : String)
  | unknownModifier (word : String)
  | malformedType (m : TypeRef.Malformed)
  deriving DecidableEq, Repr

namespace DocumentFault

def quoteName (name : String) : String := "`" ++ name ++ "`"

def message : DocumentFault → String
  | .notText m => m.message
  | .yaml => "yaml"
  | .malformed => "syntax"
  | .missingField name => "missing field " ++ quoteName name
  | .duplicateField name => "duplicate field " ++ quoteName name
  | .tooShort length record fields =>
    "invalid length " ++ toString length ++ ", expected struct " ++ record ++ " with "
      ++ toString fields ++ " elements"
  | .wrongType found expected => "invalid type: " ++ found ++ ", expected " ++ expected
  | .unknownKind word =>
    "unknown variant " ++ quoteName word ++ ", expected one of "
      ++ Text.joinStrings ", " (TypeKind.all.map fun k => quoteName k.word)
  | .unknownModifier word => "unknown modifier " ++ quoteName word
  | .malformedType m => m.message

end DocumentFault

/-- A field of a record: its name, and how its value is taken into the record. -/
structure Field (ν α : Type) where
  name : String
  take : ν → α → Except DocumentFault α

/-- The fields of a record in the order of their declaration, those that must be there, and the
record before any field is taken. -/
structure RecordShape (ν α : Type) where
  label : String
  fields : List (Field ν α)
  required : List String
  blank : α

namespace RecordShape

variable {ν α : Type} (shape : RecordShape ν α)

def field? (name : String) : Option (Field ν α) := shape.fields.find? fun f => f.name = name

/-- A required field that is not among the names. -/
def missing? (names : List String) : Option String := shape.required.find? fun n => n ∉ names

end RecordShape

/-- How the values of the schema are written in nodes. -/
structure Format (ν : Type) where
  text : ν → Except DocumentFault String
  flag : ν → Except DocumentFault Bool
  items : ν → Except DocumentFault (List ν)
  /-- Whether a node stands for an absent value where one may be absent. -/
  isAbsent : ν → Except DocumentFault Bool
  kind : ν → Except DocumentFault TypeKind
  record : {α : Type} → RecordShape ν α → ν → Except DocumentFault α

namespace Format

variable {ν : Type} (f : Format ν)

def list {α : Type} (read : ν → Except DocumentFault α) (node : ν) :
    Except DocumentFault (List α) := do
  (← f.items node).mapM read

def optional {α : Type} (read : ν → Except DocumentFault α) (node : ν) :
    Except DocumentFault (Option α) := do
  if ← f.isAbsent node then return none else return some (← read node)

def typeRef (node : ν) : Except DocumentFault TypeRef := do
  match TypeRef.parse (← f.text node) with
  | .ok t => .ok t
  | .error m => .error (.malformedType m)

/-- A list of keywords. It is read to its end before a keyword is looked up. -/
def modifiers (node : ν) : Except DocumentFault Modifiers := do
  match Modifiers.ofKeywords (← f.list f.text node) with
  | .ok m => .ok m
  | .error word => .error (.unknownModifier word)

def methodShape : RecordShape ν MethodDecl where
  label := "MethodDecl"
  fields := [
    ⟨"name", fun node m => do return { m with name := ← f.text node }⟩,
    ⟨"params", fun node m => do return { m with params := ← f.list f.typeRef node }⟩,
    ⟨"returns", fun node m => do return { m with returns := ← f.typeRef node }⟩,
    ⟨"throws", fun node m => do return { m with throws := ← f.list f.typeRef node }⟩,
    ⟨"modifiers", fun node m => do return { m with modifiers := ← f.modifiers node }⟩,
    ⟨"default", fun node m => do return { m with isDefault := ← f.flag node }⟩]
  required := ["name"]
  blank := { name := "" }

def constructorShape : RecordShape ν ConstructorDecl where
  label := "ConstructorDecl"
  fields := [
    ⟨"params", fun node c => do return { c with params := ← f.list f.typeRef node }⟩,
    ⟨"throws", fun node c => do return { c with throws := ← f.list f.typeRef node }⟩,
    ⟨"modifiers", fun node c => do return { c with modifiers := ← f.modifiers node }⟩]
  required := []
  blank := {}

def typeShape : RecordShape ν TypeDecl where
  label := "TypeDecl"
  fields := [
    ⟨"name", fun node d => do return { d with name := ← f.text node }⟩,
    ⟨"kind", fun node d => do return { d with kind := ← f.kind node }⟩,
    ⟨"modifiers", fun node d => do return { d with modifiers := ← f.modifiers node }⟩,
    ⟨"superclass", fun node d => do return { d with superclass := ← f.optional f.text node }⟩,
    ⟨"interfaces", fun node d => do return { d with interfaces := ← f.list f.text node }⟩,
    ⟨"methods", fun node d => do
      return { d with methods := ← f.list (f.record f.methodShape) node }⟩,
    ⟨"constructors", fun node d => do
      return { d with constructors := ← f.optional (f.list (f.record f.constructorShape)) node }⟩]
  required := ["name"]
  blank := { name := "" }

def catalogShape : RecordShape ν Catalog where
  label := "Catalog"
  fields := [
    ⟨"types", fun node c => do return { c with types := ← f.list (f.record f.typeShape) node }⟩]
  required := []
  blank := {}

def catalog (node : ν) : Except DocumentFault Catalog := f.record f.catalogShape node

end Format
end JavaStubs
