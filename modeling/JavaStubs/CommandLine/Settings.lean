import JavaStubs.CommandLine.Options
import JavaStubs.World.Procedure

/-!
# Settings

Catalogs are those of the command line, or else those of a variable, or else the default catalog of
the working directory if there is one. A compiler that is named is used as it is. Otherwise the first
one in a directory of `PATH` is used, or else the one below `JAVA_HOME`.
-/

namespace JavaStubs
namespace CommandLine

structure Settings where
  catalogs : List Path
  classpath : List Path
  javac : Option Path
  scratchRoot : Path
  deriving DecidableEq, Repr

def catalogVariable : String := "IMPLEMENT_CATALOG"

/-- The catalog that is used when none is named. -/
def defaultCatalog : String := "implementor.yaml"

def temporaryDir (env : Environment) : Path :=
  match env.get? "TMPDIR" with
  | some text => ⟨text⟩
  | none => Path.ofString "/tmp"

def splitPaths (list : OsText) : List Path := (Text.split (.char ':') list).map Path.mk

/-- The catalogs to load, where `dir` stands for the working directory. -/
def Options.chooseCatalogs (opts : Options) (env : Environment) (dir : Path) :
    Procedure (List Path) :=
  if !opts.catalogs.isEmpty then pure opts.catalogs
  else match env.get? catalogVariable with
    | some (g :: list) => pure (splitPaths (g :: list))
    | _ => do
      let fallback := dir.child defaultCatalog
      if ← Procedure.ask (.isFile fallback) then return [fallback] else return []

def Options.settings (opts : Options) (env : Environment) (dir : Path) : Procedure Settings := do
  return {
    catalogs := ← opts.chooseCatalogs env dir
    classpath := match opts.classpath with
      | some list => (splitPaths list).filter fun p => !p.isEmpty
      | none => []
    javac := opts.javac
    scratchRoot := opts.scratchDir.getD (temporaryDir env) }

def firstProgram : List Path → Procedure (Option Path)
  | [] => pure none
  | p :: rest => do
    if ← Procedure.ask (.isProgram p) then return some p
    firstProgram rest

def compilerName : String := "javac"

def compilerOnPath (env : Environment) : Procedure (Option Path) :=
  match env.get? "PATH" with
  | some list => firstProgram ((splitPaths list).map fun dir => dir.child compilerName)
  | none => pure none

def compilerAtHome (env : Environment) : Procedure (Option Path) :=
  match env.get? "JAVA_HOME" with
  | some home => do
    let file := Path.descend ⟨home⟩ ["bin", compilerName]
    if ← Procedure.ask (.isFile file) then return some file else return none
  | none => pure none

/-- The compiler to use, if one is named or found. -/
def Settings.findCompiler (settings : Settings) (env : Environment) : Procedure Compiler := do
  match settings.javac with
  | some file => return ⟨some file, env⟩
  | none =>
    match ← compilerOnPath env with
    | some file => return ⟨some file, env⟩
    | none => return ⟨← compilerAtHome env, env⟩

end CommandLine
end JavaStubs
