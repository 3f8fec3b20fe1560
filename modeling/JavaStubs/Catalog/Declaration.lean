import JavaStubs.Text.Pieces
import JavaStubs.Types.Modifiers
import JavaStubs.Types.TypeRef

/-!
# Targets and declarations

A target is a type as the catalogs know it: its binary name, what kind of type it is and its
modifiers. The name falls into a package, up to the last dot, and a simple name, after the last dot
and the last dollar sign. A catalog document lists declarations of types. What a document may leave
out has a default: a type is a class, a method returns `void`, lists are empty, and a type without a
list of constructors has the implicit one.
-/

namespace JavaStubs

open Text

/-- What kind of type a name denotes; enums are classes. -/
inductive Shape
  | classType | interfaceType | primitive | array
  deriving DecidableEq, Repr

/-- A type that a name denotes. -/
structure Target where
  name : String
  shape : Shape
  modifiers : Modifiers
  deriving DecidableEq, Repr

/-- The base type of all enums, of which no other class may be derived. -/
def enumBase : String := "java.lang.Enum"

/-- The class at the root of every class hierarchy. -/
def rootClass : String := "java.lang.Object"

/-- The last of the stretches between the occurrences of `sep`. -/
def lastPiece (sep : Char) (s : List Char) : List Char := (split sep s).getLastD []

namespace Target

variable (t : Target)

def simpleName : String :=
  String.ofList (lastPiece '$' (lastPiece '.' t.name.toList))

/-- The segments of the name before the last one. -/
def packageSegments : List (List Char) :=
  match t.shape with
  | .primitive | .array => []
  | .classType | .interfaceType => (split '.' t.name.toList).dropLast

/-- The package, if the type lives in one. -/
def package? : Option String :=
  if t.packageSegments = [] then none
  else some (String.ofList (join ['.'] t.packageSegments))

/-- The name without the package. -/
def localName : String :=
  if t.packageSegments = [] then t.name else String.ofList (lastPiece '.' t.name.toList)

def isInterface : Bool := t.shape = .interfaceType

def isEnumBase : Bool := t.name = enumBase

end Target

inductive TypeKind
  | classType | interfaceType | enumType
  deriving DecidableEq, Repr

namespace TypeKind

def all : List TypeKind := [.classType, .interfaceType, .enumType]

/-- The word of catalog documents. -/
def word : TypeKind → String
  | .classType => "class"
  | .interfaceType => "interface"
  | .enumType => "enum"

def ofWord? (w : String) : Option TypeKind := all.find? fun k => k.word = w

end TypeKind

/-- What tells apart the methods of a type: the name and the parameter types. -/
structure Signature where
  name : String
  params : List TypeRef
  deriving DecidableEq, Repr

/-- A declared method. A method with the flag `isDefault` has a body in an interface. -/
structure MethodDecl where
  name : String
  params : List TypeRef := []
  returns : TypeRef := .void
  throws : List TypeRef := []
  modifiers : Modifiers := .none
  isDefault : Bool := false
  deriving DecidableEq, Repr

namespace MethodDecl

def signature (m : MethodDecl) : Signature := ⟨m.name, m.params⟩

/-- Whether the method has no body. -/
def isAbstract (m : MethodDecl) : Bool := m.modifiers.has .abstract

end MethodDecl

structure ConstructorDecl where
  params : List TypeRef := []
  throws : List TypeRef := []
  modifiers : Modifiers := .none
  deriving DecidableEq, Repr

/-- A declared type. Names are binary names; `constructors` is `none` for the implicit constructor.
-/
structure TypeDecl where
  name : String
  kind : TypeKind := .classType
  modifiers : Modifiers := .none
  superclass : Option String := none
  interfaces : List String := []
  methods : List MethodDecl := []
  constructors : Option (List ConstructorDecl) := none
  deriving DecidableEq, Repr

structure Catalog where
  types : List TypeDecl := []
  deriving DecidableEq, Repr

end JavaStubs
