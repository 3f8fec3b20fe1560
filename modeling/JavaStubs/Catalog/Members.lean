import JavaStubs.Catalog.Hierarchy

/-!
# Inherited methods

The methods that users of a type see: first those of its superclass chain, then those of every
interface reachable from the chain. Of methods with one signature the first is kept, so a class
shadows an interface and a nearer class a farther one.
-/

namespace JavaStubs

/-- The elements whose key no earlier element has and that is not in `seen`. -/
def firstByKeyFrom {α κ : Type} [DecidableEq κ] (key : α → κ) (seen : List κ) : List α → List α
  | [] => []
  | a :: rest =>
    if key a ∈ seen then firstByKeyFrom key seen rest
    else a :: firstByKeyFrom key (key a :: seen) rest

def firstByKey {α κ : Type} [DecidableEq κ] (key : α → κ) (l : List α) : List α :=
  firstByKeyFrom key [] l

namespace TypeDecl

/-- The methods that a declaration on the superclass chain contributes: the public ones, and all of
them where the declaration is an interface. -/
def chainMethods (d : TypeDecl) : List MethodDecl :=
  d.methods.filter fun m => m.modifiers.has .publicAccess || d.kind = .interfaceType

/-- The methods that a reachable interface contributes. -/
def instanceMethods (d : TypeDecl) : List MethodDecl :=
  d.methods.filter fun m => !m.modifiers.has .static

end TypeDecl

namespace Store

/-- The interfaces reachable from the declarations of a chain, without those on the chain itself. -/
def interfacesOfChain (s : Store) (chain : List TypeDecl) : Except Failure (List TypeDecl) :=
  s.interfacesFrom ((chain.filter fun d => d.kind = .interfaceType).map TypeDecl.name)
    (chain.flatMap TypeDecl.interfaces)

/-- The methods of a type and of everything it inherits from, one for each signature. -/
def members (s : Store) (t : Target) : Except Failure (List MethodDecl) :=
  match t.shape with
  | .primitive | .array => .ok []
  | .classType | .interfaceType => do
    let chain ← s.chain t.name
    let interfaces ← s.interfacesOfChain chain
    return firstByKey MethodDecl.signature
      (chain.flatMap TypeDecl.chainMethods ++ interfaces.flatMap TypeDecl.instanceMethods)

end Store

section FirstByKey

variable {α κ : Type} [DecidableEq κ] (key : α → κ)

end FirstByKey

end JavaStubs
