import JavaStubs.Build.Command
import JavaStubs.CommandLine.Settings
import JavaStubs.CommandLine.EnvFile
import JavaStubs.CommandLine.Help
import JavaStubs.CommandLine.Parser
import JavaStubs.Document.Load

/-!
# The program

A run reads its arguments and the environment, loads the catalogs and carries out the invocation.
What it prints is the path that was written, a usage text, or one line about the failure.
-/

namespace JavaStubs

def Built.report (b : Built) : String :=
  let warning := match b.cleanupError with
    | some e => "Warning: " ++ e ++ "\n"
    | none => ""
  warning ++ b.archive.display ++ "\n"

namespace CommandLine

/-- Carries out an invocation and returns what is to be printed. -/
def Invocation.perform (settings : Settings) (env : Environment) (invocation : Invocation) :
    Action String := do
  let store ← Store.load settings.catalogs
  match invocation with
  | .source typeName outputDir =>
    return (← store.implement typeName outputDir).display ++ "\n"
  | .archive typeName file =>
    let compiler ← liftM (settings.findCompiler env)
    let built ← store.implementArchive typeName
      ⟨compiler, settings.scratchRoot, settings.classpath, file⟩
    return built.report

/-- Does what the arguments ask for and returns what is to be printed. -/
def perform (env : Environment) (args : List OsText) : Action String :=
  match parse env (normalize args) with
  | .error (.fault f) => Action.fail (.argument f.firstLine)
  | .error (.help isLong) => return helpText env isLong
  | .error .version => return versionText
  | .ok opts => do
    let invocation ← Action.ofExcept opts.invocation
    let settings ← liftM (opts.settings env (Path.ofString "."))
    invocation.perform settings env

/-- What a run of the program prints, and the code with which it ends. -/
structure Outcome where
  exitCode : Nat
  output : String
  deriving DecidableEq, Repr

def Outcome.ofResult : Except Failure String → Outcome
  | .ok text => ⟨0, text⟩
  | .error e => ⟨1, e.category.message ++ ": " ++ e.message ++ "\n"⟩

def envFile : Path := Path.ofString ".env"

/-- The environment, completed by the file of variables if there is one that can be read. -/
def completeEnvironment (env : Environment) : Procedure (Option Environment) := do
  if ← Procedure.ask (.isFile envFile) then
    match ← Procedure.ask (.read envFile) with
    | .ok bytes => return EnvFile.load? env bytes
    | .error _ => return some env
  else return some env

/-- The whole program. It breaks off if a variable cannot be set. -/
def program (env : Environment) (args : List OsText) : Procedure Outcome := do
  match ← completeEnvironment env with
  | some env => return Outcome.ofResult (← (perform env args).run)
  | none => return ⟨101, ""⟩

end CommandLine
end JavaStubs
