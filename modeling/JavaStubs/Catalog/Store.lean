import JavaStubs.Catalog.Declaration
import JavaStubs.Failure

/-!
# The store of declarations

A store holds one declaration for each name, the one that was inserted last. A declaration is
normalised before it is stored: it then says outright what the language leaves implicit. A name
resolves to the target that its declaration describes; primitive and array types need none.
-/

namespace JavaStubs

/-- Who may use the implicit constructor of a class is who may use the class. -/
def implicitConstructor (modifiers : Modifiers) : ConstructorDecl :=
  { modifiers := modifiers.inter .access }

namespace MethodDecl

/-- A method of an interface: public, and abstract unless it is static or has a body. A private one
always has a body and stays as it is. -/
def inInterface (m : MethodDecl) : MethodDecl :=
  if m.modifiers.has .privateAccess then m
  else
    let shown := m.modifiers.insert .publicAccess
    if !m.isDefault && !shown.has .static then { m with modifiers := shown.insert .abstract }
    else { m with modifiers := shown }

end MethodDecl

namespace TypeDecl

/-- The declaration with everything spelled out that its kind implies. -/
def normalize (d : TypeDecl) : TypeDecl :=
  match d.kind with
  | .interfaceType =>
    { d with
      modifiers := (d.modifiers.insert .interface).insert .abstract
      superclass := none
      methods := d.methods.map MethodDecl.inInterface
      constructors := some [] }
  | .enumType =>
    let modifiers := d.modifiers.insert .final
    { d with
      modifiers := modifiers
      superclass := some enumBase
      constructors := some (d.constructors.getD [implicitConstructor modifiers]) }
  | .classType =>
    { d with
      superclass :=
        if d.superclass.isNone && d.name != rootClass then some rootClass else d.superclass
      constructors := some (d.constructors.getD [implicitConstructor d.modifiers]) }

theorem name_normalize (d : TypeDecl) : d.normalize.name = d.name := by
  unfold normalize; split <;> rfl

def target (d : TypeDecl) : Target where
  name := d.name
  shape := match d.kind with
    | .interfaceType => .interfaceType
    | .classType | .enumType => .classType
  modifiers := d.modifiers

end TypeDecl

/-- Declarations with pairwise different names. -/
structure Store where
  decls : List TypeDecl
  deriving Repr

namespace Store

def empty : Store := ⟨[]⟩

def find? (s : Store) (name : String) : Option TypeDecl :=
  s.decls.find? fun d => d.name = name

/-- Stores the normalised declaration in place of any other of its name. -/
def insertDecl (s : Store) (d : TypeDecl) : Store :=
  ⟨d.normalize :: s.decls.filter fun other => other.name ≠ d.name⟩

/-- Stores every declaration of a catalog in order. -/
def insert (s : Store) (c : Catalog) : Store := c.types.foldl insertDecl s

/-- The declaration of a name, or the failure to resolve it. -/
def decl (s : Store) (name : String) : Except Failure TypeDecl :=
  match s.find? name with
  | some d => .ok d
  | none => .error (.unresolved name)

/-- The target that a reference denotes. An array is as accessible as its elements. -/
def resolveRef (s : Store) : TypeRef → Except Failure Target
  | .primitive p =>
    .ok ⟨p.keyword, .primitive, .ofList [.publicAccess, .abstract, .final]⟩
  | .array element => do
    let inner ← s.resolveRef element
    return ⟨(TypeRef.array element).binaryName, .array,
      ((inner.modifiers.inter .access).insert .abstract).insert .final⟩
  | .named name => (s.decl name).map TypeDecl.target

/-- The target that the text of a type denotes. -/
def resolve (s : Store) (name : String) : Except Failure Target :=
  match TypeRef.parse name with
  | .ok t => s.resolveRef t
  | .error _ => .error (.unresolved name)

def declaredMethods (s : Store) (t : Target) : Except Failure (List MethodDecl) :=
  match t.shape with
  | .classType | .interfaceType => (s.decl t.name).map TypeDecl.methods
  | .primitive | .array => .ok []

def superclassOf (s : Store) (t : Target) : Except Failure (Option Target) :=
  if t.shape = .classType then do
    match (← s.decl t.name).superclass with
    | some parent => return some (← s.decl parent).target
    | none => return none
  else .ok none

def constructors (s : Store) (t : Target) : Except Failure (List ConstructorDecl) :=
  if t.shape = .classType then do
    return (← s.decl t.name).constructors.getD []
  else .ok []

theorem name_of_find? {s : Store} {name : String} {d : TypeDecl} (h : s.find? name = some d) :
    d.name = name := by
  simpa using List.find?_some h

theorem find?_insertDecl (s : Store) (d : TypeDecl) (name : String) :
    (s.insertDecl d).find? name = if d.name = name then some d.normalize else s.find? name := by
  simp only [insertDecl, find?, List.find?_cons, TypeDecl.name_normalize]
  by_cases h : d.name = name
  · simp [h]
  · simp only [h, decide_false, ↓reduceIte, List.find?_filter]
    congr 1
    funext e
    by_cases he : e.name = name
    · simp [he, Ne.symm h]
    · simp [he]

end Store
end JavaStubs
