import JavaStubs.Proofs.Text.Layout
import JavaStubs.Stub.Source

/-!
# Reading generated source

What generated source says, and a reader that finds it in the text. The reader cuts the text into
lines, a block of four lines into its head and its statement, and a head into words, parameters and
exceptions; a block whose statement calls the constructor of the superclass is a constructor.
-/

namespace JavaStubs

open Text

namespace Source

structure Parameter where
  type : String
  name : String
  deriving DecidableEq, Repr

/-- What a constructor says: its head, and the arguments that it passes on. -/
structure ConstructorOutline where
  modifiers : List String
  name : String
  params : List Parameter
  throws : List String
  arguments : List String
  deriving DecidableEq, Repr

/-- What a method says: its head and its statement. -/
structure MethodOutline where
  modifiers : List String
  result : String
  name : String
  params : List Parameter
  statement : String
  deriving DecidableEq, Repr

inductive Block
  | constructor (c : ConstructorOutline)
  | method (m : MethodOutline)
  deriving DecidableEq, Repr

def Block.constructor? : Block → Option ConstructorOutline
  | .constructor c => some c
  | .method _ => none

def Block.method? : Block → Option MethodOutline
  | .constructor _ => none
  | .method m => some m

structure Outline where
  package? : Option String
  modifiers : List String
  name : String
  relation : String
  supertype : String
  constructors : List ConstructorOutline
  methods : List MethodOutline
  deriving DecidableEq, Repr

/-- The end of a line that opens a body. -/
def opening : List Char := [' ', '\x7b']

/-- The line that closes the class. -/
def closing : List Char := ['\x7d']

/-- The head of a block: the words in front of its parameters, the parameters and what follows. -/
structure Head where
  words : List String
  params : List Parameter
  tail : List Char

def readParameter? (s : List Char) : Option Parameter :=
  (cut? ' ' s).map fun (type, name) => ⟨.ofList type, .ofList name⟩

def readHead? (s : List Char) : Option Head := do
  let (words, rest) ← cut? '(' s
  let (params, tail) ← cut? ')' rest
  let params ← (items params).mapM readParameter?
  return ⟨(split ' ' words).map String.ofList, params, tail⟩

def readThrows? (tail : List Char) : Option (List String) :=
  if tail = [] then some []
  else (dropLead? " throws ".toList tail).map fun names => (items names).map String.ofList

/-- The constructor of a head and of what stands behind the parenthesis of its call. -/
def readConstructor? (head : Head) (rest : List Char) : Option ConstructorOutline :=
  match head.words.reverse with
  | name :: modifiers => do
    let arguments ← dropTail? ");".toList rest
    let throws ← readThrows? head.tail
    return ⟨modifiers.reverse, name, head.params, throws, (items arguments).map String.ofList⟩
  | [] => none

def readMethod? (head : Head) (statement : List Char) : Option MethodOutline :=
  match head.tail, head.words.reverse with
  | [], name :: result :: modifiers =>
    some ⟨modifiers.reverse, result, name, head.params, .ofList statement⟩
  | _, _ => none

def readBlock? (head statement : List Char) : Option Block := do
  let head ← readHead? head
  match dropLead? "super(".toList statement with
  | some rest => (readConstructor? head rest).map .constructor
  | none => (readMethod? head statement).map .method

def readBlocks? : List (List Char) → Option (List Block)
  | [] :: head :: statement :: last :: rest =>
    if last = indent.toList ++ closing then do
      let head ← (dropLead? indent.toList head).bind (dropTail? opening)
      let statement ← dropLead? (indent ++ indent).toList statement
      let block ← readBlock? head statement
      let blocks ← readBlocks? rest
      return block :: blocks
    else none
  | lines => if lines = [closing, []] then some [] else none

def readClass? (package? : Option String) : List (List Char) → Option Outline
  | head :: rest => do
    let words ← dropTail? opening head
    let blocks ← readBlocks? rest
    match ((split ' ' words).map String.ofList).reverse with
    | supertype :: relation :: name :: "class" :: modifiers =>
      some ⟨package?, modifiers.reverse, name, relation, supertype,
        blocks.filterMap Block.constructor?, blocks.filterMap Block.method?⟩
    | _ => none
  | [] => none

/-- What a source unit says, if it is laid out as generated source is. -/
def read? (text : String) : Option Outline :=
  match split '\n' text.toList with
  | [] => none
  | first :: rest =>
    match dropLead? "package ".toList first, rest with
    | some named, [] :: later =>
      (dropTail? [';'] named).bind fun package => readClass? (some (.ofList package)) later
    | _, _ => readClass? none (first :: rest)

def parametersOf (i : Nat) : List TypeRef → List Parameter
  | [] => []
  | t :: rest => ⟨t.sourceName, parameterName i⟩ :: parametersOf (i + 1) rest

def constructorOutline (p : Plan) (c : ConstructorObligation) : ConstructorOutline :=
  { modifiers := p.target.modifiers.emittable.keywords
    name := p.generatedName
    params := parametersOf 0 c.params
    throws := c.throws.map TypeRef.sourceName
    arguments := (List.range c.params.length).map parameterName }

def methodOutline (m : MemberObligation) : MethodOutline :=
  { modifiers := m.modifiers.emittable.keywords
    result := m.returns.sourceName
    name := m.name
    params := parametersOf 0 m.params
    statement := (DefaultValue.ofType m.returns).statement }

end Source

/-- What the source of a plan is to say. -/
def Plan.outline (p : Plan) : Source.Outline :=
  { package? := p.target.package?
    modifiers := p.target.modifiers.emittable.keywords
    name := p.generatedName
    relation := Source.relation p.target
    supertype := TypeRef.dotted p.target.localName
    constructors := p.constructors.map (Source.constructorOutline p)
    methods := p.members.toList.map Source.methodOutline }

end JavaStubs
