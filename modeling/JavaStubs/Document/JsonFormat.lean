import JavaStubs.Document.Format
import JavaStubs.Json.Reader
import JavaStubs.Text.CharClass

/-!
# Catalogs as JSON

A record is an object, or an array of its fields in the order of their declaration. Unknown fields
are skipped, whatever they hold. Of several faults the first in the order of the text is reported:
where the tree ends in `broken`, everything before that place has been read.
-/

namespace JavaStubs

namespace Numeral

/-- The number as messages name it. -/
def describe : Numeral → String
  | .integer n => "integer " ++ DocumentFault.quoteName (toString n)
  | .decimal negative x =>
    "floating point " ++ DocumentFault.quoteName ((if negative then "-" else "") ++ x.text)

end Numeral

namespace Json

/-- The value as messages name it, if it is one. -/
def describe? : Json → Option String
  | .null => some "null"
  | .bool b => some ("boolean " ++ DocumentFault.quoteName (if b then "true" else "false"))
  | .number n => some n.describe
  | .string s => some ("string " ++ Text.Quoted.quote s)
  | .array _ => some "sequence"
  | .object _ => some "map"
  | .valueless | .broken => none

/-- The fault of a value that stands where another type belongs. -/
def unfit (value : Json) (expected : String) : DocumentFault :=
  match value.describe? with
  | some found => .wrongType found expected
  | none => .malformed

def readText : Json → Except DocumentFault String
  | .string s => .ok s
  | other => .error (other.unfit "a string")

def readFlag : Json → Except DocumentFault Bool
  | .bool b => .ok b
  | other => .error (other.unfit "a boolean")

def readList : Json → Except DocumentFault (List Json)
  | .array items => .ok items
  | other => .error (other.unfit "a sequence")

def kindOfWord (word : String) : Except DocumentFault TypeKind :=
  match TypeKind.ofWord? word with
  | some kind => .ok kind
  | none => .error (.unknownKind word)

/-- A kind is a word, or an object that maps the word to null. -/
def readKind : Json → Except DocumentFault TypeKind
  | .string word => kindOfWord word
  | .object ((some word, value) :: more) => do
    let kind ← kindOfWord word
    match value, more with
    | .null, [] => return kind
    | .null, _ :: _ => throw .malformed
    | other, _ => throw (other.unfit "unit")
  | _ => .error .malformed

variable {α : Type} (shape : RecordShape Json α)

/-- Takes the entries of an object into a record; `seen` names the fields taken so far. -/
def takeEntries (seen : List String) (acc : α) :
    List (Option String × Json) → Except DocumentFault α
  | [] =>
    match shape.missing? seen with
    | some name => .error (.missingField name)
    | none => .ok acc
  | (none, _) :: _ => .error .malformed
  | (some key, value) :: rest =>
    match shape.field? key with
    | some field =>
      if key ∈ seen then .error (.duplicateField key)
      else do takeEntries (key :: seen) (← field.take value acc) rest
    | none => if value.isWellFormed then takeEntries seen acc rest else .error .malformed

/-- Takes the items of an array into the fields in turn, from the field at position `i` on. -/
def takeItems (i : Nat) (acc : α) : List (Field Json α) → List Json → Except DocumentFault α
  | fields, [] =>
    match fields.findIdx? fun f => f.name ∈ shape.required with
    | some j => .error (.tooShort (i + j) shape.label shape.fields.length)
    | none => .ok acc
  | [], _ :: _ => .error .malformed
  | field :: fields, item :: items => do takeItems (i + 1) (← field.take item acc) fields items

def readRecord : Json → Except DocumentFault α
  | .object entries => takeEntries shape [] shape.blank entries
  | .array items => takeItems shape 0 shape.blank shape.fields items
  | other => .error (other.unfit ("struct " ++ shape.label))

def format : Format Json where
  text := readText
  flag := readFlag
  items := readList
  isAbsent
    | .null => .ok true
    | _ => .ok false
  kind := readKind
  record := fun shape => readRecord shape

/-- The catalog of a JSON text. Anything after the value is a fault, but only once the value is
read. -/
def readCatalog (text : String) : Except DocumentFault Catalog := do
  let (value, complete) := ofText text
  let catalog ← format.catalog value
  if complete then return catalog else throw .malformed

end Json
end JavaStubs
