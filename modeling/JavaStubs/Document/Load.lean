import JavaStubs.Catalog.Prelude
import JavaStubs.Document.JsonFormat
import JavaStubs.Document.YamlFormat
import JavaStubs.World.Procedure

/-!
# Loading catalogs

Catalog files are read in order on top of the prelude. The extension of a file decides its format.
-/

namespace JavaStubs

def lowerAscii (s : List Char) : List Char := s.map Char.toLower

/-- Whether a path has the extension `json`, in either case. -/
def Path.isJson (p : Path) : Bool :=
  match p.extension? with
  | some text =>
    match OsText.toChars? text with
    | some cs => lowerAscii cs = "json".toList
    | none => false
  | none => false

def Catalog.ofText (p : Path) (text : String) : Except DocumentFault Catalog :=
  if p.isJson then Json.readCatalog text else Yaml.readCatalog text

def Catalog.ofBytes (p : Path) (bytes : List UInt8) : Except DocumentFault Catalog :=
  match Text.Utf8.decode bytes with
  | .ok text => Catalog.ofText p (String.ofList text)
  | .error m => .error (.notText m)

def loadCatalog (p : Path) : Action Catalog := do
  match ← Action.ask (.read p) with
  | .error e => Action.fail (.metadata p e)
  | .ok bytes =>
    match Catalog.ofBytes p bytes with
    | .ok c => return c
    | .error fault => Action.fail (.metadata p fault.message)

/-- A store with the catalogs of the files on top of those in a given store. -/
def Store.loadInto (s : Store) : List Path → Action Store
  | [] => return s
  | p :: rest => do (s.insert (← loadCatalog p)).loadInto rest

/-- The prelude and the catalogs of the files. -/
def Store.load (paths : List Path) : Action Store := Store.prelude.loadInto paths

end JavaStubs
