import JavaStubs.Catalog.Store

/-!
# The prelude

The types on which every catalog can build: the roots of the class hierarchy and a few interfaces of
the standard library.
-/

namespace JavaStubs
namespace Prelude

def object : TypeRef := .named rootClass

def int : TypeRef := .primitive .int

def boolean : TypeRef := .primitive .boolean

def public_ (more : List Modifier) : Modifiers := .ofList (.publicAccess :: more)

def protected_ (more : List Modifier) : Modifiers := .ofList (.protectedAccess :: more)

def objectDecl : TypeDecl where
  name := rootClass
  modifiers := public_ []
  methods := [
    { name := "getClass", returns := .named "java.lang.Class",
      modifiers := public_ [.final, .native] },
    { name := "hashCode", returns := int, modifiers := public_ [.native] },
    { name := "equals", params := [object], returns := boolean, modifiers := public_ [] },
    { name := "toString", returns := .named "java.lang.String", modifiers := public_ [] },
    { name := "notify", modifiers := public_ [.final, .native] },
    { name := "notifyAll", modifiers := public_ [.final, .native] },
    { name := "wait", throws := [.named "java.lang.InterruptedException"],
      modifiers := public_ [.final] },
    { name := "clone", returns := object, throws := [.named "java.lang.CloneNotSupportedException"],
      modifiers := protected_ [.native] },
    { name := "finalize", throws := [.named "java.lang.Throwable"], modifiers := protected_ [] }]
  constructors := some [{ modifiers := public_ [] }]

def interfaceDecl (name : String) (interfaces : List String) (methods : List MethodDecl) :
    TypeDecl where
  name := name
  kind := .interfaceType
  modifiers := public_ []
  interfaces := interfaces
  methods := methods

def enumDecl : TypeDecl where
  name := enumBase
  modifiers := public_ [.abstract]
  interfaces := ["java.lang.Comparable", "java.io.Serializable"]
  methods := [
    { name := "name", returns := .named "java.lang.String", modifiers := public_ [.final] },
    { name := "ordinal", returns := int, modifiers := public_ [.final] },
    { name := "compareTo", params := [.named enumBase], returns := int,
      modifiers := public_ [.final] }]
  constructors := some [{ params := [.named "java.lang.String", int], modifiers := protected_ [] }]

def stringDecl : TypeDecl where
  name := "java.lang.String"
  modifiers := public_ [.final]
  interfaces := ["java.io.Serializable", "java.lang.Comparable", "java.lang.CharSequence"]

def numberDecl : TypeDecl where
  name := "java.lang.Number"
  modifiers := public_ [.abstract]
  interfaces := ["java.io.Serializable"]
  methods := [
    { name := "intValue", returns := int, modifiers := public_ [.abstract] },
    { name := "longValue", returns := .primitive .long, modifiers := public_ [.abstract] },
    { name := "floatValue", returns := .primitive .float, modifiers := public_ [.abstract] },
    { name := "doubleValue", returns := .primitive .double, modifiers := public_ [.abstract] },
    { name := "byteValue", returns := .primitive .byte, modifiers := public_ [] },
    { name := "shortValue", returns := .primitive .short, modifiers := public_ [] }]
  constructors := some [{ modifiers := public_ [] }]

def catalog : Catalog where
  types := [
    objectDecl,
    interfaceDecl "java.io.Serializable" [] [],
    interfaceDecl "java.lang.Comparable" []
      [{ name := "compareTo", params := [object], returns := int }],
    enumDecl,
    interfaceDecl "java.lang.CharSequence" []
      [{ name := "length", returns := int },
        { name := "charAt", params := [int], returns := .primitive .char },
        { name := "subSequence", params := [int, int],
          returns := .named "java.lang.CharSequence" }],
    stringDecl,
    numberDecl,
    interfaceDecl "java.lang.Runnable" [] [{ name := "run" }],
    interfaceDecl "java.lang.AutoCloseable" []
      [{ name := "close", throws := [.named "java.lang.Exception"] }],
    interfaceDecl "java.io.Closeable" ["java.lang.AutoCloseable"]
      [{ name := "close", throws := [.named "java.io.IOException"] }],
    interfaceDecl "java.lang.Iterable" []
      [{ name := "iterator", returns := .named "java.util.Iterator" },
        { name := "forEach", params := [.named "java.util.function.Consumer"], isDefault := true }],
    interfaceDecl "java.util.Iterator" []
      [{ name := "hasNext", returns := boolean },
        { name := "next", returns := object },
        { name := "remove", isDefault := true }],
    interfaceDecl "java.util.concurrent.Callable" []
      [{ name := "call", returns := object, throws := [.named "java.lang.Exception"] }]]

end Prelude

def Store.prelude : Store := Store.empty.insert Prelude.catalog

end JavaStubs
