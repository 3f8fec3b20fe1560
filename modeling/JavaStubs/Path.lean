import JavaStubs.Text.OsText
import JavaStubs.Text.Pieces

/-!
# Paths

A path is kept as it was written, and compared by its components: repeated slashes, a slash at the
end and the component `.` anywhere but in front make no difference. Joining and cutting off the last
component work on the written form.
-/

namespace JavaStubs

open Text

inductive Component
  | root
  | here
  | up
  | name (text : OsText)
  deriving DecidableEq, Repr

/-- A path as it was written. -/
structure Path where
  text : OsText
  deriving DecidableEq, Repr

namespace Path

def slash : Glyph := .char '/'

def dot : Glyph := .char '.'

def ofString (s : String) : Path := ⟨OsText.ofString s⟩

def empty : Path := ⟨[]⟩

def isEmpty (p : Path) : Bool := p.text.isEmpty

/-- The path as messages show it. -/
def display (p : Path) : String := p.text.display

def isAbsolute (p : Path) : Bool := p.text.head? = some slash

/-- The stretches between the slashes. -/
def pieces (p : Path) : List OsText := split slash p.text

/-- The component of a stretch that is not in front; an empty one and `.` are none. -/
def componentOfPiece? (piece : OsText) : Option Component :=
  if piece = [] ∨ piece = [dot] then none
  else if piece = [dot, dot] then some .up
  else some (.name piece)

/-- The component of a path's first stretch, if it is not empty. -/
def frontComponent (piece : OsText) : Component :=
  if piece = [dot] then .here else (componentOfPiece? piece).getD .root

def components (p : Path) : List Component :=
  match p.pieces with
  | [] => []
  | [[]] => []
  | front :: rest => frontComponent front :: rest.filterMap componentOfPiece?

def same (p q : Path) : Bool := p.components = q.components

/-- Whether `p` is `q` or lies below it. -/
def isUnder (p q : Path) : Bool := q.components.isPrefixOf p.components

/-- The key by which components are ordered: the root, `.`, `..`, and then the names by their
bytes. -/
def orderKey : Component → Nat × List Nat
  | .root => (0, [])
  | .here => (1, [])
  | .up => (2, [])
  | .name text => (3, (OsText.toBytes text).map UInt8.toNat)

/-- Whether `p` is not after `q` in the order of their components. -/
def precedes (p q : Path) : Bool :=
  go (p.components.map orderKey) (q.components.map orderKey)
where
  go : List (Nat × List Nat) → List (Nat × List Nat) → Bool
    | [], _ => true
    | _ :: _, [] => false
    | a :: as, b :: bs =>
      if a = b then go as bs else a.1 < b.1 || (a.1 = b.1 && decide (a.2 < b.2))

/-- The path `q` seen from `p`: an absolute `q` stands for itself. -/
def join (p q : Path) : Path :=
  if q.isAbsolute then q
  else if p.text = [] ∨ p.text.getLast? = some slash then ⟨p.text ++ q.text⟩
  else ⟨p.text ++ slash :: q.text⟩

def child (p : Path) (name : String) : Path := p.join (ofString name)

/-- Each name one further down. -/
def descend (p : Path) (names : List String) : Path := names.foldl child p

/-- Takes stretches that are no component off the end; the stretches are given backwards. -/
def dropEmptyPieces (backwards : List OsText) : List OsText :=
  match backwards with
  | [] => []
  | [front] => [front]
  | piece :: rest =>
    if (componentOfPiece? piece).isNone then dropEmptyPieces rest else piece :: rest

/-- The path up to the last component but one; a path without a component that could be taken off
has no parent. -/
def parent? (p : Path) : Option Path :=
  match dropEmptyPieces p.pieces.reverse with
  | [] => none
  | [[]] => none
  | [_] => some empty
  | _ :: rest =>
    match dropEmptyPieces rest with
    | [[]] => some ⟨[slash]⟩
    | left => some ⟨Text.join [slash] left.reverse⟩

/-- The last component, if it is a name. -/
def fileName? (p : Path) : Option OsText :=
  match p.components.getLast? with
  | some (.name text) => some text
  | _ => none

/-- The stem and the extension of a file name: what stands before and after the last dot, unless
that dot is the first character. -/
def splitExtension (name : OsText) : OsText × Option OsText :=
  match (split dot name).reverse with
  | [] => (name, none)
  | [_] => (name, none)
  | last :: before =>
    let stem := Text.join [dot] before.reverse
    if stem = [] then (name, none) else (stem, some last)

def extension? (p : Path) : Option OsText :=
  p.fileName?.bind fun name => (splitExtension name).2

/-- The path with another extension on its file name. What stands before the name stays as it was
written. -/
def withExtension (p : Path) (extension : String) : Path :=
  match p.fileName?, dropEmptyPieces p.pieces.reverse with
  | some name, _ :: before =>
    let renamed := (splitExtension name).1 ++ dot :: OsText.ofString extension
    ⟨Text.join [slash] (renamed :: before).reverse⟩
  | _, _ => p

/-- The path and each of its parents that is not empty. -/
def withAncestors (p : Path) : List Path :=
  go p.text.length p
where
  go : Nat → Path → List Path
    | 0, q => [q].filter (!·.isEmpty)
    | n + 1, q =>
      if q.isEmpty then []
      else match q.parent? with
        | none => [q]
        | some parent => q :: go n parent

end Path
end JavaStubs
