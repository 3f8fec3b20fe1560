import JavaStubs.Stub.Plan
import JavaStubs.Types.TypeRef

/-!
# Generated source text

A source unit is a package clause, the head of the class, one block for each constructor, one for
each member, and the closing brace. A member returns the least that its result type allows.
-/

namespace JavaStubs

/-- What a stub returns. -/
inductive DefaultValue
  | nothing | null | false | zero
  deriving DecidableEq, Repr

namespace DefaultValue

/-- The value for a result type: nothing for `void`, `false` for `boolean`, zero for every other
primitive type, and `null` for a reference. -/
def ofType : TypeRef → DefaultValue
  | .primitive .void => .nothing
  | .primitive .boolean => .false
  | .primitive _ => .zero
  | .array _ | .named _ => .null

def expression? : DefaultValue → Option String
  | .nothing => none
  | .null => some "null"
  | .false => some "false"
  | .zero => some "0"

def statement (v : DefaultValue) : String :=
  match v.expression? with
  | some e => "return " ++ e ++ ";"
  | none => "return;"

end DefaultValue

namespace Source

def openBrace : String := " \x7b\n"

def closeBrace : String := "\x7d\n"

def indent : String := "    "

/-- The keywords that generated code keeps, each with a blank after it. -/
def modifierText (m : Modifiers) : String :=
  if m.emittable.isEmpty then "" else m.emittable.text ++ " "

def parameterName (i : Nat) : String := "var" ++ toString i

/-- The parameters from position `i` on, as text. -/
def parametersFrom (i : Nat) : List TypeRef → List String
  | [] => []
  | t :: rest => (t.sourceName ++ " " ++ parameterName i) :: parametersFrom (i + 1) rest

def parameterList (params : List TypeRef) : String :=
  "(" ++ Text.joinStrings ", " (parametersFrom 0 params) ++ ")"

/-- The exceptions of a declaration, with a blank in front if there are any. -/
def throwsClause (throws : List TypeRef) : String :=
  if throws.isEmpty then ""
  else " throws " ++ Text.joinStrings ", " (throws.map TypeRef.sourceName)

/-- A member of the class: its head, and the one statement of its body. -/
def block (head statement : String) : String :=
  "\n" ++ indent ++ head ++ openBrace ++ indent ++ indent ++ statement ++ "\n" ++ indent
    ++ closeBrace

def packageClause (t : Target) : String :=
  match t.package? with
  | some package => "package " ++ package ++ ";\n\n"
  | none => ""

/-- How the generated class relates to its target. -/
def relation (t : Target) : String := if t.isInterface then "implements" else "extends"

def classHead (p : Plan) : String :=
  modifierText p.target.modifiers ++ "class " ++ p.generatedName ++ " " ++ relation p.target ++ " "
    ++ TypeRef.dotted p.target.localName ++ openBrace

def superCall (n : Nat) : String :=
  "super(" ++ Text.joinStrings ", " ((List.range n).map parameterName) ++ ");"

def constructorBlock (p : Plan) (c : ConstructorObligation) : String :=
  block
    (modifierText p.target.modifiers ++ p.generatedName ++ parameterList c.params
      ++ throwsClause c.throws)
    (superCall c.params.length)

def memberBlock (m : MemberObligation) : String :=
  block
    (modifierText m.modifiers ++ m.returns.sourceName ++ " " ++ m.name ++ parameterList m.params)
    (DefaultValue.ofType m.returns).statement

end Source

def Plan.render (p : Plan) : String :=
  Source.packageClause p.target ++ Source.classHead p
    ++ String.join (p.constructors.map (Source.constructorBlock p))
    ++ String.join (p.members.toList.map Source.memberBlock) ++ Source.closeBrace

end JavaStubs
