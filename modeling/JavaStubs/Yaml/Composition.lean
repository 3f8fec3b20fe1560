import JavaStubs.Yaml.Lexer

/-!
# From tokens to nodes

The tokens of a text make up one document: directives, a node, and the markers around it. An anchor
gets as its number the count of the different names that came before it, and an alias stands for the
last number that its name got.
-/

namespace JavaStubs
namespace Yaml

/-- A scalar with its style and, if it has one, its tag. -/
structure Scalar where
  text : String
  style : ScalarStyle
  tag : Option String
  deriving DecidableEq, Repr

inductive Node
  | scalar (anchor : Option Nat) (s : Scalar)
  | sequence (anchor : Option Nat) (items : List Node)
  | mapping (anchor : Option Nat) (entries : List (Node × Node))
  | alias (number : Nat)
  deriving Repr

namespace Node

/-- The node that stands where nothing is written. -/
def empty : Node := .scalar none ⟨"", .plain, none⟩

/-- A node under its number, if it has one. -/
def entry (anchor : Option Nat) (n : Node) : List (Nat × Node) :=
  match anchor with
  | some number => [(number, n)]
  | none => []

mutual

/-- The anchored nodes of a tree with their numbers, outer ones before inner ones. -/
def anchored : Node → List (Nat × Node)
  | .scalar anchor s => entry anchor (.scalar anchor s)
  | .sequence anchor items => entry anchor (.sequence anchor items) ++ anchoredItems items
  | .mapping anchor entries => entry anchor (.mapping anchor entries) ++ anchoredEntries entries
  | .alias _ => []

def anchoredItems : List Node → List (Nat × Node)
  | [] => []
  | item :: rest => item.anchored ++ anchoredItems rest

def anchoredEntries : List (Node × Node) → List (Nat × Node)
  | [] => []
  | (key, value) :: rest => key.anchored ++ value.anchored ++ anchoredEntries rest

end

end Node

/-- The tokens that are left, the number of each anchor name, and what tag handles stand for. -/
structure Composer where
  tokens : List Token
  anchors : List (String × Nat)
  handles : List (String × String)

/-- A step of the composition, which may fail. -/
abbrev Compose := StateT Composer Option

namespace Compose

def fail {α : Type} : Compose α := fun _ => none

def peek : Compose (Option Token) := do return (← get).tokens.head?

def skip : Compose Unit := modify fun c => { c with tokens := c.tokens.tail }

/-- Takes the next token if it is the given one. -/
def take (t : Token) : Compose Bool := do
  if (← peek) = some t then
    skip
    return true
  else return false

def nextIn (ts : List Token) : Compose Bool := do
  match ← peek with
  | some t => return t ∈ ts
  | none => return false

def defineAnchor (name : String) : Compose Nat := do
  let anchors := (← get).anchors
  let number := anchors.length
  modify fun c => { c with anchors := (name, number) :: anchors.filter fun a => a.1 ≠ name }
  return number

def resolveAlias (name : String) : Compose Nat := do
  match (← get).anchors.lookup name with
  | some number => return number
  | none => fail

def resolveTag (handle suffix : String) : Compose String := do
  if handle = "" then return suffix
  match (← get).handles.lookup handle with
  | some meaning => return meaning ++ suffix
  | none => fail

/-- The anchor and the tag in front of a node, in either order. -/
def properties : Compose (Option Nat × Option String) := do
  match ← peek with
  | some (.anchor name) =>
    skip
    let tag ← match ← peek with
      | some (.tag handle suffix) => skip; pure (some (handle, suffix))
      | _ => pure none
    let tag ← tag.mapM fun (handle, suffix) => resolveTag handle suffix
    return (some (← defineAnchor name), tag)
  | some (.tag handle suffix) =>
    skip
    let anchor ← match ← peek with
      | some (.anchor name) => skip; pure (some name)
      | _ => pure none
    let tag ← resolveTag handle suffix
    return (← anchor.mapM defineAnchor, some tag)
  | _ => return (none, none)

/-- The tokens after which an entry of a block mapping has no node. -/
def afterBlockKey : List Token := [.key, .value, .blockEnd]

mutual

/-- A node. Block collections are only read where `block` holds, and a sequence whose entries are
not indented only where `indentless` holds. Every call takes a token or is followed by one that
does, so that `fuel` above three times the number of tokens is never used up. -/
def node (block indentless : Bool) : Nat → Compose Node
  | 0 => fail
  | fuel + 1 => do
    match ← peek with
    | some (.alias name) =>
      skip
      return .alias (← resolveAlias name)
    | _ =>
      let (anchor, tag) ← properties
      match ← peek with
      | some (.scalar style text) =>
        skip
        return .scalar anchor ⟨text, style, if tag = some "!" then none else tag⟩
      | some .flowSequenceStart =>
        skip
        return .sequence anchor (← flowSequence true fuel)
      | some .flowMappingStart =>
        skip
        return .mapping anchor (← flowMapping true fuel)
      | some .blockEntry =>
        if indentless then return .sequence anchor (← indentlessSequence fuel)
        else emptyNode anchor tag
      | some .blockSequenceStart =>
        if block then
          skip
          return .sequence anchor (← blockSequence fuel)
        else emptyNode anchor tag
      | some .blockMappingStart =>
        if block then
          skip
          return .mapping anchor (← blockMapping fuel)
        else emptyNode anchor tag
      | _ => emptyNode anchor tag
where
  /-- An anchor or a tag alone makes an empty scalar. -/
  emptyNode (anchor : Option Nat) (tag : Option String) : Compose Node :=
    if anchor.isSome || tag.isSome then pure (.scalar anchor ⟨"", .plain, tag⟩) else fail

def blockSequence : Nat → Compose (List Node)
  | 0 => fail
  | fuel + 1 => do
    if ← take .blockEntry then
      let item ←
        if ← nextIn [.blockEntry, .blockEnd] then pure Node.empty else node true false fuel
      return item :: (← blockSequence fuel)
    else if ← take .blockEnd then return []
    else fail

/-- The entries of a sequence that stands at the column of the mapping around it. -/
def indentlessSequence : Nat → Compose (List Node)
  | 0 => fail
  | fuel + 1 => do
    if ← take .blockEntry then
      let item ←
        if ← nextIn [.blockEntry, .key, .value, .blockEnd] then pure Node.empty
        else node true false fuel
      return item :: (← indentlessSequence fuel)
    else return []

def blockMapping : Nat → Compose (List (Node × Node))
  | 0 => fail
  | fuel + 1 => do
    if ← take .key then
      let key ← if ← nextIn afterBlockKey then pure Node.empty else node true true fuel
      let value ←
        if ← take .value then
          if ← nextIn afterBlockKey then pure Node.empty else node true true fuel
        else pure Node.empty
      return (key, value) :: (← blockMapping fuel)
    else if ← take .blockEnd then return []
    else fail

/-- The items of a flow sequence up to its end. An item that begins with a key is a mapping with one
entry. -/
def flowSequence (first : Bool) : Nat → Compose (List Node)
  | 0 => fail
  | fuel + 1 => do
    if ← take .flowSequenceEnd then return []
    if !first then
      if !(← take .flowEntry) then fail
      if ← take .flowSequenceEnd then return []
    let item ←
      if ← take .key then do pure (Node.mapping none [← flowPair fuel])
      else node false false fuel
    return item :: (← flowSequence false fuel)

/-- The entry of a flow sequence that is a mapping. Where the key is left out, the token in its
place is passed over. -/
def flowPair : Nat → Compose (Node × Node)
  | 0 => fail
  | fuel + 1 => do
    let key ←
      if ← nextIn [.value, .flowEntry, .flowSequenceEnd] then do
        skip
        pure Node.empty
      else node false false fuel
    let value ←
      if ← take .value then
        if ← nextIn [.flowEntry, .flowSequenceEnd] then pure Node.empty else node false false fuel
      else pure Node.empty
    return (key, value)

/-- The entries of a flow mapping up to its end. -/
def flowMapping (first : Bool) : Nat → Compose (List (Node × Node))
  | 0 => fail
  | fuel + 1 => do
    if ← take .flowMappingEnd then return []
    if !first then
      if !(← take .flowEntry) then fail
      if ← take .flowMappingEnd then return []
    let entry ←
      if ← take .key then do
        let key ←
          if ← nextIn [.value, .flowEntry, .flowMappingEnd] then pure Node.empty
          else node false false fuel
        let value ←
          if ← take .value then
            if ← nextIn [.flowEntry, .flowMappingEnd] then pure Node.empty
            else node false false fuel
          else pure Node.empty
        pure (key, value)
      else do pure (← node false false fuel, Node.empty)
    return entry :: (← flowMapping false fuel)

end

/-- The directives in front of a document: at most one version, which has to be 1.1 or 1.2, and at
most one meaning for each handle. The flag tells whether there was any directive. -/
def directives (version : Bool) : Nat → Compose Bool
  | 0 => fail
  | fuel + 1 => do
    match ← peek with
    | some (.versionDirective major minor) =>
      if version || major ≠ 1 || (minor ≠ 1 && minor ≠ 2) then fail
      skip
      let _ ← directives true fuel
      return true
    | some (.tagDirective handle meaning) =>
      if ((← get).handles.lookup handle).isSome then fail
      skip
      modify fun c => { c with handles := (handle, meaning) :: c.handles }
      let _ ← directives version fuel
      return true
    | _ => return false

/-- What handles stand for unless a directive says otherwise. -/
def defaultHandles : List (String × String) := [("!", "!"), ("!!", "tag:yaml.org,2002:")]

/-- Whether the next token leaves a document without content. -/
def atEmptyContent : Compose Bool := do
  match ← peek with
  | none | some .documentStart | some .documentEnd => return true
  | some (.versionDirective _ _) | some (.tagDirective _ _) => return true
  | _ => return false

def skipDocumentEnds : Compose Unit :=
  modify fun c => { c with tokens := c.tokens.dropWhile (· = .documentEnd) }

/-- The only document of a text; a text without tokens has an empty one. -/
def document (fuel : Nat) : Compose Node := do
  if (← peek).isNone then return Node.empty
  let hasDirectives ← directives false fuel
  modify fun c => { c with handles := c.handles ++ defaultHandles }
  let root ←
    if ← take .documentStart then
      if ← atEmptyContent then pure Node.empty else node true false fuel
    else if hasDirectives then fail
    else node true false fuel
  skipDocumentEnds
  if (← peek).isNone then return root else fail

end Compose

/-- The node of a text with a single document. -/
def compose? (text : String) : Option Node := do
  let tokens ← tokens? text
  let (root, _) ← (Compose.document (3 * tokens.length + 3)).run ⟨tokens, [], []⟩
  return root

end Yaml
end JavaStubs
