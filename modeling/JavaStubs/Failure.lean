import JavaStubs.Path
import JavaStubs.Text.CharClass

/-!
# Failures

Every way in which a run can fail, with its wording and the category under which the command line
reports it.
-/

namespace JavaStubs

/-- Why no implementation of a type can exist. -/
inductive StructuralReason
  | primitive | array | enumBase | final
  deriving DecidableEq, Repr

def StructuralReason.message : StructuralReason → String
  | .primitive => "primitive types cannot be implemented"
  | .array => "array types cannot be implemented"
  | .enumBase => "the enum base type cannot be implemented"
  | .final => "final types cannot be extended"

/-- What the command line prints before a failure. -/
inductive FailureCategory
  | argument | invalidPath | unknownType | implementation
  deriving DecidableEq, Repr

namespace FailureCategory

def all : List FailureCategory := [.argument, .invalidPath, .unknownType, .implementation]

def message : FailureCategory → String
  | .argument => "Argument error"
  | .invalidPath => "Invalid path"
  | .unknownType => "No such class"
  | .implementation => "Implementation error"

end FailureCategory

inductive Failure
  /-- Arguments that make no request. -/
  | argument (text : String)
  /-- An output path that cannot be used. -/
  | invalidPath (path : Path) (reason : String)
  /-- A type, or an ancestor of one, that no catalog declares. -/
  | unresolved (name : String)
  /-- A catalog that cannot be read. -/
  | metadata (path : Path) (reason : String)
  /-- A chain of superclasses that comes back to the named type. -/
  | inheritanceCycle (name : String)
  /-- A type that no class can implement. -/
  | structural (name : String) (reason : StructuralReason)
  /-- A class all of whose constructors are private. -/
  | noAccessibleConstructor (name : String)
  /-- A failed operation on files, on the compiler or on the archive. -/
  | io (context : String) (source : String)
  /-- A source file that the compiler rejects. -/
  | compilation (sourceFile : Path) (exitCode : Int) (diagnostics : String)
  deriving DecidableEq, Repr

namespace Failure

/-- What a compiler printed, on lines of its own. -/
def diagnosticsText (diagnostics : String) : String :=
  match Text.trim diagnostics.toList with
  | [] => ""
  | text => "\n" ++ String.ofList text

def message : Failure → String
  | .argument text => text
  | .invalidPath path reason => path.display ++ ": " ++ reason
  | .unresolved name => name
  | .metadata path reason => "invalid type metadata in " ++ path.display ++ ": " ++ reason
  | .inheritanceCycle name => "circular superclass chain through " ++ name
  | .structural name reason => "cannot implement " ++ name ++ ": " ++ reason.message
  | .noAccessibleConstructor name =>
    "cannot implement " ++ name ++ ": no accessible constructor"
  | .io context source => context ++ ": " ++ source
  | .compilation sourceFile exitCode diagnostics =>
    "compilation of " ++ sourceFile.display ++ " failed (exit code " ++ toString exitCode ++ ")"
      ++ diagnosticsText diagnostics

def category : Failure → FailureCategory
  | .argument _ => .argument
  | .invalidPath _ _ => .invalidPath
  | .unresolved _ => .unknownType
  | _ => .implementation

/-- The text of the failure underneath, where there is one. -/
def source? : Failure → Option String
  | .io _ source => some source
  | _ => none

end Failure
end JavaStubs
