import JavaStubs.Stub.Source
import JavaStubs.Text.Sink
import JavaStubs.World.Procedure

/-!
# Commands

The source of a plan is escaped and written below a root directory, in the directory of its package.
When the file cannot be opened, written or flushed, whatever then stands at its path is removed. An
archive is built in a scratch directory that belongs to this run alone: the source is written there
and compiled, and the class file is packed. Whatever happens, the scratch directory is removed in the
end, and a failure to remove it is no failure of the build. The two commands check their output path
before they plan, and plan before they touch any file.
-/

namespace JavaStubs

/-- Opens a file and writes the escaped text to it. The first step that fails is the last. -/
def writeEscaped (file : Path) (text : String) : Procedure (Except String Unit) := do
  match ← Procedure.ask (.create file) with
  | .error e => return .error e
  | .ok () =>
    match ← Procedure.ask (.write file (Text.Utf8.bytesOfString (Text.escape text))) with
    | .error e => return .error e
    | .ok () => Procedure.ask (.flush file)

namespace Plan

/-- Writes the source of a plan and returns its path. -/
def writeSource (p : Plan) (root : Path) : Action Path := do
  let dir := p.packageDir root
  Action.require ("failed to create " ++ dir.display) (← Action.ask (.createDirAll dir))
  let file := p.sourcePath root
  match ← liftM (writeEscaped file p.render) with
  | .ok () => return file
  | .error e =>
    if ← Action.ask (.pathExists file) then
      let _ ← Action.ask (.removeFile file)
    Action.fail (.io ("failed to write " ++ file.display) e)

end Plan

inductive Stage
  | synthesize | compile | archive | cleanup
  deriving DecidableEq, Repr

namespace Stage

def all : List Stage := [.synthesize, .compile, .archive, .cleanup]

def word : Stage → String
  | .synthesize => "synthesize"
  | .compile => "compile"
  | .archive => "archive"
  | .cleanup => "cleanup"

end Stage

/-- The only attribute of a manifest. -/
def manifestVersion : String × String := ("Manifest-Version", "1.0")

def manifestPath : String := "META-INF/MANIFEST.MF"

/-- One line for each attribute and an empty line. -/
def manifestText (attributes : List (String × String)) : String :=
  String.join (attributes.map fun (name, value) => name ++ ": " ++ value ++ "\r\n") ++ "\r\n"

/-- What a build needs besides a plan. -/
structure BuildSetting where
  compiler : Compiler
  scratchRoot : Path
  classpath : List Path
  destination : Path

structure Built where
  archive : Path
  entry : String
  /-- Why the scratch directory could not be removed, if it could not. -/
  cleanupError : Option String
  deriving DecidableEq, Repr

/-- The directory of the run with the given identifier. -/
def scratchDir (root : Path) (id : String) : Path := root.child ("implementor-" ++ id)

namespace Plan

/-- Compiles the source that was written below a scratch directory, and reads the class file. -/
def compileIn (p : Plan) (setting : BuildSetting) (scratch source : Path) :
    Action (List UInt8) := do
  let report ← Action.require "failed to run the compiler"
    (← Action.ask (.compile ⟨setting.compiler, [source], scratch :: setting.classpath, scratch⟩))
  if !report.succeeded then
    Action.fail (.compilation source report.exitCode report.diagnostics)
  let classFile := p.classPath scratch
  Action.require ("failed to read " ++ classFile.display) (← Action.ask (.read classFile))

/-- Writes the archive with the class file, in a directory that is made if it is missing. -/
def archiveAt (p : Plan) (destination : Path) (bytes : List UInt8) : Action Unit := do
  match destination.parent? with
  | some parent =>
    if !parent.isEmpty then
      Action.require ("failed to create " ++ parent.display) (← Action.ask (.createDirAll parent))
  | none => pure ()
  Action.require ("failed to write " ++ destination.display)
    (← Action.ask (.archive ⟨destination, [manifestVersion], [⟨p.classEntry, bytes⟩]⟩))

/-- The stages up to the archive, in a given scratch directory. -/
def buildIn (p : Plan) (setting : BuildSetting) (scratch : Path) : Action Unit := do
  Action.require ("failed to create " ++ scratch.display) (← Action.ask (.createDirAll scratch))
  let source ← p.writeSource scratch
  let bytes ← p.compileIn setting scratch source
  p.archiveAt setting.destination bytes

def build (p : Plan) (setting : BuildSetting) : Action Built := do
  let scratch := scratchDir setting.scratchRoot (← Action.ask .freshId)
  let result ← Action.outcome (p.buildIn setting scratch)
  let cleanup ← Action.ask (.removeDirAll scratch)
  let () ← Action.ofExcept result
  return {
    archive := setting.destination
    entry := p.classEntry
    cleanupError := match cleanup with
      | .ok () => none
      | .error e => some ("failed to remove " ++ scratch.display ++ ": " ++ e) }

end Plan

/-- Whether the path, as messages show it, has a NUL character in it. -/
def Path.hasNul (p : Path) : Bool := p.text.contains (.char '\x00')

/-- What is wrong with the text of an output path. -/
def Path.textFault? (p : Path) : Option String :=
  if p.isEmpty then some "empty path"
  else if p.hasNul then some "path contains a NUL character"
  else none

/-- An output directory must be absent or a directory. -/
def checkOutputDir (dir : Path) : Action Unit := do
  match dir.textFault? with
  | some reason => Action.fail (.invalidPath dir reason)
  | none =>
    if ← Action.ask (.pathExists dir) then
      if !(← Action.ask (.isDir dir)) then
        Action.fail (.invalidPath dir "not a directory")

/-- An archive must not be a directory. -/
def checkArchivePath (file : Path) : Action Unit := do
  match file.textFault? with
  | some reason => Action.fail (.invalidPath file reason)
  | none =>
    if ← Action.ask (.isDir file) then
      Action.fail (.invalidPath file "is a directory")

namespace Store

def implement (s : Store) (typeName : String) (outputDir : Path) : Action Path := do
  checkOutputDir outputDir
  (← Action.ofExcept (s.planFor typeName)).writeSource outputDir

def implementArchive (s : Store) (typeName : String) (setting : BuildSetting) : Action Built := do
  checkArchivePath setting.destination
  (← Action.ofExcept (s.planFor typeName)).build setting

end Store
end JavaStubs
