import JavaStubs.Stub.Obligation

/-!
# Plans

What an implementation of a target has to supply are its abstract members and the constructors of
the class it extends. A plan holds them together with the target and the name of the generated
class. Under a root directory the source and the class file lie in one directory for each segment of
the package.
-/

namespace JavaStubs

structure Surface where
  members : ObligationSet
  constructors : List ConstructorDecl

namespace Target

/-- Why no class can implement the target, if none can. -/
def rejection? (t : Target) : Option StructuralReason :=
  match t.shape with
  | .primitive => some .primitive
  | .array => some .array
  | .classType | .interfaceType =>
    if t.isEnumBase then some .enumBase
    else if t.modifiers.has .final then some .final
    else none

/-- Fails for a target that no class can implement. -/
def validate (t : Target) : Except Failure Unit :=
  match t.rejection? with
  | some reason => .error (.structural t.name reason)
  | none => .ok ()

end Target

/-- The obligations of those methods that have no body. -/
def abstractMembers (methods : List MethodDecl) : List MemberObligation :=
  (methods.filter MethodDecl.isAbstract).map MemberObligation.ofMethod

namespace Store

/-- The methods that each of the targets declares, in order. -/
def declaredBy (s : Store) : List Target → Except Failure (List MethodDecl)
  | [] => .ok []
  | t :: rest => do
    let methods ← s.declaredMethods t
    return methods ++ (← s.declaredBy rest)

/-- The abstract members of a target: those that users of the type see, and then those that the
target and its superclasses declare, which adds the ones that are not public. -/
def obligations (s : Store) (t : Target) : Except Failure ObligationSet := do
  let visible ← s.members t
  let declared ← s.declaredBy (← s.ancestors t)
  return (ObligationSet.ofList (abstractMembers visible)).extend (abstractMembers declared)

def surface (s : Store) (t : Target) : Except Failure Surface := do
  t.validate
  let members ← s.obligations t
  return ⟨members, ← s.constructors t⟩

end Store

/-- Whether a subclass may call the constructor. -/
def ConstructorDecl.isEligible (c : ConstructorDecl) : Bool := !c.modifiers.has .privateAccess

/-- The constructors that an implementation forwards to. A class has to offer at least one; an
interface has none. -/
def Target.forwarders (t : Target) (declared : List ConstructorDecl) :
    Except Failure (List ConstructorObligation) :=
  if t.isInterface then .ok []
  else match declared.filter ConstructorDecl.isEligible with
    | [] => .error (.noAccessibleConstructor t.name)
    | eligible => .ok (eligible.map ConstructorObligation.ofDecl)

structure Plan where
  target : Target
  generatedName : String
  constructors : List ConstructorObligation
  members : ObligationSet

/-- What follows the simple name of the target in the name of the generated class. -/
def generatedSuffix : String := "Impl"

namespace Store

def plan (s : Store) (t : Target) : Except Failure Plan := do
  let surface ← s.surface t
  let constructors ← t.forwarders surface.constructors
  return ⟨t, t.simpleName ++ generatedSuffix, constructors, surface.members⟩

/-- The plan for the target that a name denotes. -/
def planFor (s : Store) (name : String) : Except Failure Plan := do
  s.plan (← s.resolve name)

end Store

namespace Plan

variable (p : Plan)

def packageDir (root : Path) : Path :=
  root.descend (p.target.packageSegments.map String.ofList)

def sourcePath (root : Path) : Path :=
  (p.packageDir root).child (p.generatedName ++ ".java")

def classPath (root : Path) : Path :=
  (p.packageDir root).child (p.generatedName ++ ".class")

/-- The name of the class file inside an archive. -/
def classEntry : String :=
  Text.joinStrings "/" (p.target.packageSegments.map String.ofList ++
    [p.generatedName ++ ".class"])

end Plan
end JavaStubs
