import JavaStubs.Document.Format
import JavaStubs.Yaml.Composition

/-!
# Catalogs as YAML

Every scalar is text. A plain scalar without text stands for an empty list and for a record without
fields. All faults of a YAML document are one.
-/

namespace JavaStubs
namespace Yaml

/-- Spellings of null besides the empty one. -/
def isNullWord (text : String) : Bool := text ∈ ["null", "Null", "NULL", "~"]

def flagOfWord? (text : String) : Option Bool :=
  if text ∈ ["true", "True", "TRUE"] then some true
  else if text ∈ ["false", "False", "FALSE"] then some false
  else none

def nullTag : String := "tag:yaml.org,2002:null"

def flagTag : String := "tag:yaml.org,2002:bool"

namespace Scalar

def isBlankPlain (s : Scalar) : Bool := s.style = .plain && s.text.isEmpty

/-- Whether the scalar stands for an absent value; one that is tagged as null has to spell null. -/
def isAbsent? (s : Scalar) : Option Bool :=
  if s.style ≠ .plain then some false
  else match s.tag with
    | none => some (s.text.isEmpty || isNullWord s.text)
    | some tag =>
      if tag ≠ nullTag then some false else if isNullWord s.text then some true else none

/-- A truth value is plain, or literal and tagged as one. -/
def flag? (s : Scalar) : Option Bool :=
  match s.style with
  | .plain => flagOfWord? s.text
  | .literal => if s.tag = some flagTag then flagOfWord? s.text else none
  | _ => none

/-- The local tag, if the scalar has one. -/
def localTag? (s : Scalar) : Option String :=
  s.tag.bind fun tag =>
    match tag.toList with
    | ['!'] => some "!"
    | '!' :: name => some (String.ofList name)
    | _ => none

/-- A kind is a word, or a local tag before a value that is null. -/
def kind? (s : Scalar) : Option TypeKind :=
  match s.localTag? with
  | some word =>
    if s.style = .plain && (s.text.isEmpty || isNullWord s.text) then TypeKind.ofWord? word
    else none
  | none => TypeKind.ofWord? s.text

end Scalar

/-- The node that an alias stands for; of several nodes with one number it is the last. -/
def follow (anchors : List (Nat × Node)) : Node → Option Node
  | .alias number => (anchors.reverse.find? fun a => a.1 = number).map (·.2)
  | n => some n

variable (anchors : List (Nat × Node))

def orFault {α : Type} : Option α → Except DocumentFault α
  | some a => .ok a
  | none => .error .yaml

def scalar? (n : Node) : Option Scalar :=
  match follow anchors n with
  | some (.scalar _ s) => some s
  | _ => none

def readItems (n : Node) : Except DocumentFault (List Node) :=
  match follow anchors n with
  | some (.sequence _ items) => .ok items
  | some (.scalar _ s) => if s.isBlankPlain then .ok [] else .error .yaml
  | _ => .error .yaml

variable {α : Type} (shape : RecordShape Node α)

/-- Takes the entries of a mapping into a record; `seen` names the fields taken so far. -/
def takeEntries (seen : List String) (acc : α) : List (Node × Node) → Except DocumentFault α
  | [] => if (shape.missing? seen).isSome then .error .yaml else .ok acc
  | (key, value) :: rest => do
    let name := (← orFault (scalar? anchors key)).text
    match shape.field? name with
    | some field =>
      if name ∈ seen then .error .yaml
      else takeEntries (name :: seen) (← field.take value acc) rest
    | none => takeEntries seen acc rest

def readRecord (n : Node) : Except DocumentFault α :=
  match follow anchors n with
  | some (.mapping _ entries) => takeEntries anchors shape [] shape.blank entries
  | some (.scalar _ s) =>
    if s.isBlankPlain then takeEntries anchors shape [] shape.blank [] else .error .yaml
  | _ => .error .yaml

/-- Values as YAML writes them, with the nodes that aliases stand for. -/
def format : Format Node where
  text n := do return (← orFault (scalar? anchors n)).text
  flag n := do orFault (← orFault (scalar? anchors n)).flag?
  items := readItems anchors
  isAbsent n := match scalar? anchors n with
    | some s => orFault s.isAbsent?
    | none => .ok false
  kind n := do orFault (← orFault (scalar? anchors n)).kind?
  record := fun shape => readRecord anchors shape

def readCatalog (text : String) : Except DocumentFault Catalog :=
  match compose? text with
  | some root => ((format root.anchored).catalog root).mapError fun _ => .yaml
  | none => .error .yaml

end Yaml
end JavaStubs
