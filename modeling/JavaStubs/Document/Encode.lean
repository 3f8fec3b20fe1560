import JavaStubs.Catalog.Declaration
import JavaStubs.Json.Basic

/-!
# Writing catalogs

The JSON form of a catalog has every field, with types by their binary names and modifiers by their
keywords.
-/

namespace JavaStubs

def TypeRef.toJson (t : TypeRef) : Json := .string t.binaryName

def typeRefsToJson (l : List TypeRef) : Json := .array (l.map TypeRef.toJson)

def Modifiers.toJson (m : Modifiers) : Json := Json.strings m.keywords

def optionToJson {α : Type} (encode : α → Json) : Option α → Json
  | none => .null
  | some a => encode a

def MethodDecl.toJson (m : MethodDecl) : Json :=
  .record [("name", .string m.name), ("params", typeRefsToJson m.params),
    ("returns", m.returns.toJson), ("throws", typeRefsToJson m.throws),
    ("modifiers", m.modifiers.toJson), ("default", .bool m.isDefault)]

def ConstructorDecl.toJson (c : ConstructorDecl) : Json :=
  .record [("params", typeRefsToJson c.params), ("throws", typeRefsToJson c.throws),
    ("modifiers", c.modifiers.toJson)]

def TypeDecl.toJson (d : TypeDecl) : Json :=
  .record [("name", .string d.name), ("kind", .string d.kind.word),
    ("modifiers", d.modifiers.toJson), ("superclass", optionToJson .string d.superclass),
    ("interfaces", Json.strings d.interfaces),
    ("methods", .array (d.methods.map MethodDecl.toJson)),
    ("constructors",
      optionToJson (fun cs => .array (cs.map ConstructorDecl.toJson)) d.constructors)]

def Catalog.toJson (c : Catalog) : Json :=
  .record [("types", .array (c.types.map TypeDecl.toJson))]

end JavaStubs
