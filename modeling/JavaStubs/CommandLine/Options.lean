import JavaStubs.Failure
import JavaStubs.Text.Terminal
import JavaStubs.World.Request

/-!
# Options

The command line takes one flag, four options with a value, and positional arguments. An option with
a value may be given once, except for catalogs; where it is left out, a variable of the environment
may stand in for it.
-/

namespace JavaStubs
namespace CommandLine

def programName : String := "implement"

def programVersion : String := "0.1.0"

inductive ValueOption
  | catalog | classpath | javac | scratchDir
  deriving DecidableEq, Repr

namespace ValueOption

def all : List ValueOption := [.catalog, .classpath, .javac, .scratchDir]

/-- The name without its dashes. -/
def word : ValueOption → String
  | .catalog => "catalog"
  | .classpath => "classpath"
  | .javac => "javac"
  | .scratchDir => "scratch-dir"

/-- What usage texts put in place of the value. -/
def placeholder : ValueOption → String
  | .catalog | .javac => "PATH"
  | .classpath => "PATHS"
  | .scratchDir => "DIR"

/-- The option as messages show it. -/
def usage (o : ValueOption) : String := "--" ++ o.word ++ " <" ++ o.placeholder ++ ">"

/-- The variable that stands in for the option. -/
def variableName? : ValueOption → Option String
  | .catalog => none
  | .classpath => some "CLASSPATH"
  | .javac => some "IMPLEMENT_JAVAC"
  | .scratchDir => some "IMPLEMENT_SCRATCH_DIR"

def ofWord? (w : OsText) : Option ValueOption := all.find? fun o => OsText.ofString o.word = w

end ValueOption

structure Options where
  jar : Bool := false
  catalogs : List Path := []
  classpath : Option OsText := none
  javac : Option Path := none
  scratchDir : Option Path := none
  args : List String := []
  deriving DecidableEq, Repr

/-- Arguments that cannot be read. -/
inductive ArgumentFault
  | unexpected (shown : String)
  | unneededValue (value flag : String)
  | missingValue (o : ValueOption)
  | repeated (shown : String)
  | notText
  deriving DecidableEq, Repr

namespace ArgumentFault

def message : ArgumentFault → String
  | .unexpected shown => "unexpected argument '" ++ Text.withoutControls shown ++ "' found"
  | .unneededValue value flag =>
    "unexpected value '" ++ Text.withoutControls value ++ "' for '" ++ flag
      ++ "' found; no more were expected"
  | .missingValue o => "a value is required for '" ++ o.usage ++ "' but none was supplied"
  | .repeated shown => "the argument '" ++ shown ++ "' cannot be used multiple times"
  | .notText => "invalid UTF-8 was detected in one or more arguments"

def firstLine (f : ArgumentFault) : String :=
  let line := f.message.toList.takeWhile (· ≠ '\n')
  String.ofList
    (if line.getLast? = some '\r' ∧ line ≠ f.message.toList then line.dropLast else line)

end ArgumentFault

namespace Options

def has (opts : Options) : ValueOption → Bool
  | .catalog => !opts.catalogs.isEmpty
  | .classpath => opts.classpath.isSome
  | .javac => opts.javac.isSome
  | .scratchDir => opts.scratchDir.isSome

def mayRepeat (o : ValueOption) : Bool := o = .catalog

/-- Whether the value of an option may be empty: that of a path may not. -/
def mayBeEmpty (o : ValueOption) : Bool := o = .classpath

def set (opts : Options) (o : ValueOption) (value : OsText) : Except ArgumentFault Options :=
  if opts.has o && !mayRepeat o then .error (.repeated o.usage)
  else if value = [] && !mayBeEmpty o then .error (.missingValue o)
  else .ok <| match o with
    | .catalog => { opts with catalogs := opts.catalogs ++ [⟨value⟩] }
    | .classpath => { opts with classpath := some value }
    | .javac => { opts with javac := some ⟨value⟩ }
    | .scratchDir => { opts with scratchDir := some ⟨value⟩ }

/-- Takes a positional argument, which has to be text. -/
def addArg (opts : Options) (arg : OsText) : Except ArgumentFault Options :=
  match OsText.toString? arg with
  | some s => .ok { opts with args := opts.args ++ [s] }
  | none => .error .notText

/-- Takes the value of an option from the environment unless it was given. -/
def setFromEnvironment (env : Environment) (opts : Options) (o : ValueOption) :
    Except ArgumentFault Options :=
  match o.variableName?.bind env.get? with
  | some value => if opts.has o then .ok opts else opts.set o value
  | none => .ok opts

end Options
end CommandLine
end JavaStubs
