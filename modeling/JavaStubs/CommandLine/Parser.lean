import JavaStubs.CommandLine.Options

/-!
# Reading arguments

The arguments are read from left to right. An option without a value attached to it waits for the
next argument, and what it stands for is settled only when something else is read: then it is an
error that the value is missing, repeated or empty. After `--` every argument is positional. The
positional arguments ask for the source of an implementation below a directory, or for an archive
with the compiled implementation.
-/

namespace JavaStubs
namespace CommandLine

open Text

def isDash (g : Glyph) : Bool := g = .char '-'

/-- Whether an argument is followed by its value. -/
def isValueOption (arg : OsText) : Bool :=
  ValueOption.all.any fun o => arg = OsText.ofString ("--" ++ o.word)

/-- Turns the first `-jar` in front of the positional arguments into the flag `--jar`. -/
def normalize : List OsText → List OsText
  | [] => []
  | arg :: rest =>
    if arg = OsText.ofString "-jar" then OsText.ofString "--jar" :: rest
    else if arg = OsText.ofString "--" ∨ !(arg.head?.map isDash).getD false then arg :: rest
    else if isValueOption arg then
      match rest with
      | [] => [arg]
      | value :: rest => arg :: value :: normalize rest
    else arg :: normalize rest

inductive ArgumentForm
  /-- Two dashes alone. -/
  | separator
  | long (name : OsText) (value : Option OsText)
  /-- One dash, with what follows it first. -/
  | short (first : Glyph) (rest : OsText)
  | plain
  deriving DecidableEq

def formOf (arg : OsText) : ArgumentForm :=
  match arg with
  | a :: b :: rest =>
    if !isDash a then .plain
    else if !isDash b then .short b rest
    else if rest = [] then .separator
    else match Text.cut? (.char '=') rest with
      | some (name, value) => .long name (some value)
      | none => .long rest none
  | _ => .plain

/-- What has been read and is not settled yet. -/
inductive Pending
  | nothing
  | option (o : ValueOption) (value : Option OsText)
  | args (values : List OsText)

/-- Why the reading ends before the last argument. -/
inductive Stop
  | fault (f : ArgumentFault)
  /-- The long or the short help is asked for. -/
  | help (long : Bool)
  | version
  deriving DecidableEq, Repr

abbrev Parse := Except Stop

def orStop {α : Type} : Except ArgumentFault α → Parse α
  | .ok a => .ok a
  | .error f => .error (.fault f)

/-- The options so far, what is pending, and whether all that follows is positional. -/
structure Reading where
  options : Options
  pending : Pending
  onlyArgs : Bool

namespace Reading

def start : Reading := ⟨{}, .nothing, false⟩

/-- The options with everything pending taken into them. -/
def settle (r : Reading) : Parse Options :=
  match r.pending with
  | .nothing => .ok r.options
  | .option o none => .error (.fault (.missingValue o))
  | .option o (some value) => orStop (r.options.set o value)
  | .args values => orStop (values.foldlM Options.addArg r.options)

def settled (r : Reading) : Parse Reading := do
  return { r with options := ← r.settle, pending := .nothing }

def positional (r : Reading) (arg : OsText) : Parse Reading :=
  match r.pending with
  | .args values => .ok { r with pending := .args (values ++ [arg]) }
  | _ => do return { ← r.settled with pending := .args [arg] }

/-- A flag, which takes no value. -/
def flag (r : Reading) (shown : String) (value : Option OsText) (act : Options → Parse Options) :
    Parse Reading :=
  match value with
  | some v => .error (.fault (.unneededValue (OsText.display v) shown))
  | none => do
    let r ← r.settled
    return { r with options := ← act r.options }

def setJar (opts : Options) : Parse Options :=
  if opts.jar then .error (.fault (.repeated "--jar")) else .ok { opts with jar := true }

def long (r : Reading) (name : OsText) (value : Option OsText) : Parse Reading :=
  match ValueOption.ofWord? name, value with
  | some o, some v => do
    let r ← r.settled
    return { r with options := ← orStop (r.options.set o v) }
  | some o, none => do return { ← r.settled with pending := .option o none }
  | none, _ =>
    if name = OsText.ofString "jar" then r.flag "--jar" value setJar
    else if name = OsText.ofString "help" then
      r.flag "--help" value fun _ => .error (.help true)
    else if name = OsText.ofString "version" then
      r.flag "--version" value fun _ => .error .version
    else .error (.fault (.unexpected ("--" ++ OsText.display name)))

def short (r : Reading) (first : Glyph) (rest : OsText) : Parse Reading :=
  match first with
  | .char 'h' => r.flag "-h" none fun _ => .error (.help false)
  | .char 'V' => r.flag "-V" none fun _ => .error .version
  | .char c => .error (.fault (.unexpected ("-" ++ String.singleton c)))
  | .stray bytes =>
    .error (.fault (.unexpected ("-" ++ OsText.display (.stray bytes :: rest))))

def step (r : Reading) (arg : OsText) : Parse Reading :=
  if r.onlyArgs then r.positional arg
  else match formOf arg with
    | .separator => .ok { r with onlyArgs := true }
    | .long name value => r.long name value
    | .short first rest => r.short first rest
    | .plain =>
      match r.pending with
      | .option o none => .ok { r with pending := .option o (some arg) }
      | _ => r.positional arg

end Reading

/-- The options of the arguments, completed from the environment. -/
def parse (env : Environment) (args : List OsText) : Parse Options := do
  let opts ← (← args.foldlM Reading.step Reading.start).settle
  orStop (ValueOption.all.foldlM (Options.setFromEnvironment env) opts)

inductive Invocation
  | source (typeName : String) (outputDir : Path)
  | archive (typeName : String) (file : Path)
  deriving DecidableEq, Repr

/-- Exactly two arguments make an invocation. -/
def Options.invocation (opts : Options) : Except Failure Invocation :=
  let total := opts.args.length + (if opts.jar then 1 else 0)
  if total < 2 then .error (.argument "Not enough arguments")
  else if 3 < total then .error (.argument "Too many arguments")
  else match opts.jar, opts.args with
    | false, [typeName, output] => .ok (.source typeName (Path.ofString output))
    | true, [typeName, output] => .ok (.archive typeName (Path.ofString output))
    | false, _ => .error (.argument "Three arguments require `-jar` as the first one")
    | true, _ => .error (.argument "Not enough arguments for -jar")

end CommandLine
end JavaStubs
