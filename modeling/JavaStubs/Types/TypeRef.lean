import JavaStubs.Text.CharClass
import JavaStubs.Text.Pieces

/-!
# Type references

A reference is a primitive, a named type or an array of either. Named types keep their binary name,
in which `$` separates a nested type from the type around it. Reading a reference first erases
generic arguments and blanks, then takes off a trailing `...` and every `[]`, and what is left has
to be a keyword or a binary name.
-/

namespace JavaStubs

/-- A primitive type, or `void` for a method without a result. -/
inductive Primitive
  | void | boolean | byte | char | short | int | long | float | double
  deriving DecidableEq, Repr

namespace Primitive

def all : List Primitive :=
  [void, boolean, byte, char, short, int, long, float, double]

def keyword : Primitive → String
  | void => "void"
  | boolean => "boolean"
  | byte => "byte"
  | char => "char"
  | short => "short"
  | int => "int"
  | long => "long"
  | float => "float"
  | double => "double"

def ofKeyword? (word : String) : Option Primitive :=
  all.find? fun p => p.keyword = word

theorem ofKeyword?_keyword (p : Primitive) : ofKeyword? p.keyword = some p := by
  cases p <;> decide

theorem keyword_of_ofKeyword? {word : String} {p : Primitive} (h : ofKeyword? word = some p) :
    p.keyword = word := by
  simpa using List.find?_some h

end Primitive

open Text

/-- The type of a parameter, a result or an exception. -/
inductive TypeRef
  | primitive (p : Primitive)
  | array (element : TypeRef)
  | named (name : String)
  deriving DecidableEq, Repr

namespace TypeRef

def void : TypeRef := .primitive .void

def isPrimitive : TypeRef → Bool
  | .primitive _ => true
  | _ => false

def dimensions : TypeRef → Nat
  | .array element => element.dimensions + 1
  | _ => 0

/-- The type without its array dimensions. -/
def innermost : TypeRef → TypeRef
  | .array element => element.innermost
  | t => t

/-- An array of `n` more dimensions. -/
def arrayOf : Nat → TypeRef → TypeRef
  | 0, t => t
  | n + 1, t => .array (arrayOf n t)

/-- The name as catalogs write it. -/
def binaryName : TypeRef → String
  | .primitive p => p.keyword
  | .array element => element.binaryName ++ "[]"
  | .named name => name

/-- A name with a dot between a nested type and the type around it. -/
def dotted (name : String) : String := String.ofList (replace '$' '.' name.toList)

/-- The name as source text writes it. -/
def sourceName : TypeRef → String
  | .primitive p => p.keyword
  | .array element => element.sourceName ++ "[]"
  | .named name => dotted name

inductive Fault
  | strayClose
  | missingClose
  | badName
  | voidArray
  deriving DecidableEq, Repr

def Fault.message : Fault → String
  | .strayClose => "unbalanced `>`"
  | .missingClose => "unbalanced `<`"
  | .badName => "expected a primitive keyword or a qualified name"
  | .voidArray => "`void` cannot be an array element"

structure Malformed where
  input : String
  fault : Fault
  deriving DecidableEq, Repr

def Malformed.message (m : Malformed) : String :=
  "malformed type name `" ++ m.input ++ "`: " ++ m.fault.message

/-- The characters outside angle brackets that are no blanks, at bracket depth `depth`. -/
def eraseFrom : Nat → List Char → Except Fault (List Char)
  | 0, [] => .ok []
  | _ + 1, [] => .error .missingClose
  | depth, c :: rest =>
    if c = '<' then eraseFrom (depth + 1) rest
    else if c = '>' then
      match depth with
      | 0 => .error .strayClose
      | outer + 1 => eraseFrom outer rest
    else if depth = 0 ∧ !isBlank c then (eraseFrom 0 rest).map (c :: ·)
    else eraseFrom depth rest

/-- The text without generic arguments and blanks. -/
def erase (s : List Char) : Except Fault (List Char) := eraseFrom 0 s

def isNameStart (c : Char) : Bool := isLetter c || c = '_' || c = '$'

def isNamePart (c : Char) : Bool := isLetterOrNumber c || c = '_' || c = '$'

/-- A segment of a binary name. -/
def isSegment : List Char → Bool
  | [] => false
  | c :: rest => isNameStart c && rest.all isNamePart

/-- Whether a text is a sequence of segments with dots between them. -/
def isBinaryName (s : List Char) : Bool := (split '.' s).all isSegment

/-- Takes every `[]` off the end of a text that is given from its last character to its first: the
number of pairs, and what is left, still backwards. -/
def takeBrackets : List Char → Nat × List Char
  | ']' :: '[' :: rest =>
    let (n, left) := takeBrackets rest
    (n + 1, left)
  | s => (0, s)

/-- Takes `...` off the end of a text that is given backwards. -/
def takeEllipsis : List Char → Nat × List Char
  | '.' :: '.' :: '.' :: rest => (1, rest)
  | s => (0, s)

/-- The base of an erased text and its number of dimensions. -/
def splitDimensions (s : List Char) : List Char × Nat :=
  let (ellipsis, rest) := takeEllipsis s.reverse
  let (brackets, base) := takeBrackets rest
  (base.reverse, ellipsis + brackets)

def ofErased (s : List Char) : Except Fault TypeRef :=
  let (base, n) := splitDimensions s
  match Primitive.ofKeyword? (String.ofList base) with
  | some p => if 0 < n ∧ p = .void then .error .voidArray else .ok (arrayOf n (.primitive p))
  | none =>
    if isBinaryName base then .ok (arrayOf n (.named (String.ofList base))) else .error .badName

def parse (s : String) : Except Malformed TypeRef :=
  match (erase s.toList).bind ofErased with
  | .ok t => .ok t
  | .error fault => .error ⟨s, fault⟩

theorem innermost_arrayOf (n : Nat) (t : TypeRef) : (arrayOf n t).innermost = t.innermost := by
  induction n with
  | zero => rfl
  | succ n ih => simpa [arrayOf, innermost] using ih

end TypeRef
end JavaStubs
