/-
  The nodes of a YAML document.

  * `Node` : scalars, lists and mappings; an alias leads to the node that it names;
  * `Node.ofTokens?` : the node of a text that holds one document, read from its tokens;
  * `parse?` : the node of a text.
-/
import AsyncIdioms.Yaml.Token

namespace AsyncIdioms.Yaml

/-- A node. -/
inductive Node where
  | scalar (style : Style) (tag : Option String) (text : String)
  | items (nodes : List Node)
  | fields (entries : List (Node × Node))
  /-- A node that is met again; `jumps` counts the aliases on the way, in the node too. -/
  | again (jumps : Nat) (node : Node)

namespace Node

/-- A node that is not written. -/
def absent : Node := .scalar .plain none ""

/-- The node that an alias leads to. -/
def target : Node → Node
  | again _ n => n.target
  | n => n

mutual

/-- How many aliases are followed when all of the node is read. -/
def jumps : Node → Nat
  | scalar .. => 0
  | items nodes => jumpsOfList nodes
  | fields entries => jumpsOfEntries entries
  | again n _ => n

def jumpsOfList : List Node → Nat
  | [] => 0
  | n :: rest => n.jumps + jumpsOfList rest

def jumpsOfEntries : List (Node × Node) → Nat
  | [] => 0
  | (key, value) :: rest => key.jumps + value.jumps + jumpsOfEntries rest

end

mutual

/-- How many steps it takes to tell the node: one for a scalar or an alias, one at each end of a
    collection. -/
def weight : Node → Nat
  | scalar .. => 1
  | items nodes => weightOfList nodes + 2
  | fields entries => weightOfEntries entries + 2
  | again .. => 1

def weightOfList : List Node → Nat
  | [] => 0
  | n :: rest => n.weight + weightOfList rest

def weightOfEntries : List (Node × Node) → Nat
  | [] => 0
  | (key, value) :: rest => key.weight + value.weight + weightOfEntries rest

end

end Node

/-! ## Names in a document -/

/-- The nodes that anchors name, the last one first; of those that are still open there is none. -/
abbrev Anchors := List (String × Option Node)

/-- The addresses that the handles of tags stand for. -/
abbrev Handles := List (String × String)

/-- The handles that need no directive. -/
def defaultHandles : Handles := [("!", "!"), ("!!", "tag:yaml.org,2002:")]

/-- The tag that a written one stands for. Without a handle, it is the suffix. -/
def resolveTag (handles : Handles) (tag : TagName) : Option String :=
  if tag.handle == "" then some tag.suffix
  else (handles.find? (·.1 == tag.handle)).map (·.2 ++ tag.suffix)

/-- An anchor and a tag in front of a node. -/
structure Decoration where
  anchor : Option String := none
  tag : Option String := none

/-- Reads an anchor and a tag, in either order. -/
def readDecoration (handles : Handles) : List Token → Option (Decoration × List Token)
  | .anchor a :: .tag t :: rest => do return (⟨some a, some (← resolveTag handles t)⟩, rest)
  | .tag t :: .anchor a :: rest => do return (⟨some a, some (← resolveTag handles t)⟩, rest)
  | .anchor a :: rest => some (⟨some a, none⟩, rest)
  | .tag t :: rest => do return (⟨none, some (← resolveTag handles t)⟩, rest)
  | rest => some ({}, rest)

/-- Notes the node that an anchor names. -/
def noteAnchor (d : Decoration) (n : Option Node) (anchors : Anchors) : Anchors :=
  match d.anchor with
  | some a => (a, n) :: anchors
  | none => anchors

/-- The node of an alias, if its anchor names one that is complete. -/
def aliased? (anchors : Anchors) (name : String) : Option Node := do
  let n ← ((anchors.find? (·.1 == name)).bind (·.2))
  return .again (n.jumps + 1) n

/-- Does a token end an item of a block sequence, so that there is nothing in it? -/
def endsBlockItem : List Token → Bool
  | .blockEntry :: _ | .blockEnd :: _ => true
  | _ => false

/-- Does a token end an item of a block sequence that is not indented, or a part of a block mapping? -/
def endsBlockPart (inSequence : Bool) : List Token → Bool
  | .key :: _ | .value :: _ | .blockEnd :: _ => true
  | .blockEntry :: _ => inSequence
  | _ => false

/-- Does a token end a part of a flow collection? -/
def endsFlowPart (isKey : Bool) : List Token → Bool
  | .value :: _ => isKey
  | .flowEntry :: _ | .flowSequenceEnd :: _ | .flowMappingEnd :: _ => true
  | _ => false

/-! ## Reading nodes -/

/-- What has been read, the anchors so far, and the tokens that are left. -/
abbrev Parsed (α : Type) := α × Anchors × List Token

/-- A node of which only the decoration is written. -/
def decorated? (d : Decoration) (anchors : Anchors) (tokens : List Token) : Option (Parsed Node) :=
  if d.anchor.isNone && d.tag.isNone then none
  else
    let node := Node.scalar .plain d.tag ""
    some (node, noteAnchor d node anchors, tokens)

/-- The tokens behind a comma. -/
def afterComma : List Token → Option (List Token)
  | .flowEntry :: rest => some rest
  | _ => none

mutual

/-- Reads a node. `inBlock` tells that block collections may start here, `indentless` that a block
    sequence may stand in the column of the mapping around it. The first argument bounds the depth;
    twice the number of tokens is enough. -/
def readNode (handles : Handles) :
    Nat → (inBlock indentless : Bool) → Anchors → List Token → Option (Parsed Node)
  | 0, _, _, _, _ => none
  | _ + 1, _, _, anchors, .aliasOf name :: rest => do return (← aliased? anchors name, anchors, rest)
  | n + 1, inBlock, indentless, anchors, tokens => do
    let (d, tokens) ← readDecoration handles tokens
    let inside := noteAnchor d none anchors
    match tokens with
    | .scalar style text :: rest =>
      let node := Node.scalar style (d.tag.filter (· != "!")) text
      return (node, noteAnchor d node anchors, rest)
    | .flowSequenceStart :: rest =>
      let (nodes, anchors, rest) ← readFlowItems handles n true inside rest
      return (.items nodes, noteAnchor d (some (.items nodes)) anchors, rest)
    | .flowMappingStart :: rest =>
      let (entries, anchors, rest) ← readFlowFields handles n true inside rest
      return (.fields entries, noteAnchor d (some (.fields entries)) anchors, rest)
    | .blockEntry :: _ =>
      if indentless then
        let (nodes, anchors, rest) ← readIndentlessItems handles n inside tokens
        return (.items nodes, noteAnchor d (some (.items nodes)) anchors, rest)
      else decorated? d anchors tokens
    | .blockSequenceStart :: rest =>
      if inBlock then
        let (nodes, anchors, rest) ← readBlockItems handles n inside rest
        return (.items nodes, noteAnchor d (some (.items nodes)) anchors, rest)
      else decorated? d anchors tokens
    | .blockMappingStart :: rest =>
      if inBlock then
        let (entries, anchors, rest) ← readBlockFields handles n inside rest
        return (.fields entries, noteAnchor d (some (.fields entries)) anchors, rest)
      else decorated? d anchors tokens
    | _ => decorated? d anchors tokens

/-- Reads the items of a block sequence and its end. -/
def readBlockItems (handles : Handles) : Nat → Anchors → List Token → Option (Parsed (List Node))
  | 0, _, _ => none
  | n + 1, anchors, .blockEntry :: rest => do
    let (node, anchors, rest) ←
      if endsBlockItem rest then some (Node.absent, anchors, rest)
      else readNode handles n true false anchors rest
    let (nodes, anchors, rest) ← readBlockItems handles n anchors rest
    return (node :: nodes, anchors, rest)
  | _ + 1, anchors, .blockEnd :: rest => some ([], anchors, rest)
  | _, _, _ => none

/-- Reads the items of a block sequence that has no indentation of its own. -/
def readIndentlessItems (handles : Handles) : Nat → Anchors → List Token → Option (Parsed (List Node))
  | 0, _, _ => none
  | n + 1, anchors, .blockEntry :: rest => do
    let (node, anchors, rest) ←
      if endsBlockPart true rest then some (Node.absent, anchors, rest)
      else readNode handles n true false anchors rest
    let (nodes, anchors, rest) ← readIndentlessItems handles n anchors rest
    return (node :: nodes, anchors, rest)
  | _ + 1, anchors, rest => some ([], anchors, rest)

/-- Reads the entries of a block mapping and its end. -/
def readBlockFields (handles : Handles) : Nat → Anchors → List Token → Option (Parsed (List (Node × Node)))
  | 0, _, _ => none
  | n + 1, anchors, .key :: rest => do
    let (key, anchors, rest) ←
      if endsBlockPart false rest then some (Node.absent, anchors, rest)
      else readNode handles n true true anchors rest
    let (value, anchors, rest) ← readBlockValue handles n anchors rest
    let (entries, anchors, rest) ← readBlockFields handles n anchors rest
    return ((key, value) :: entries, anchors, rest)
  | _ + 1, anchors, .blockEnd :: rest => some ([], anchors, rest)
  | _, _, _ => none

/-- Reads the value of an entry of a block mapping, which may be missing. -/
def readBlockValue (handles : Handles) : Nat → Anchors → List Token → Option (Parsed Node)
  | 0, _, _ => none
  | n + 1, anchors, .value :: rest =>
    if endsBlockPart false rest then some (Node.absent, anchors, rest)
    else readNode handles n true true anchors rest
  | _ + 1, anchors, rest => some (Node.absent, anchors, rest)

/-- Reads the items of a flow sequence and its end. An item may be a mapping of one entry. -/
def readFlowItems (handles : Handles) :
    Nat → (isFirst : Bool) → Anchors → List Token → Option (Parsed (List Node))
  | 0, _, _, _ => none
  | _ + 1, _, anchors, .flowSequenceEnd :: rest => some ([], anchors, rest)
  | n + 1, isFirst, anchors, tokens => do
    let tokens ← if isFirst then some tokens else afterComma tokens
    match tokens with
    | .flowSequenceEnd :: rest => return ([], anchors, rest)
    | .key :: rest =>
      let (key, anchors, rest) ←
        if endsFlowPart true rest then some (Node.absent, anchors, rest)
        else readNode handles n false false anchors rest
      let (value, anchors, rest) ← readFlowValue handles n anchors rest
      let (nodes, anchors, rest) ← readFlowItems handles n false anchors rest
      return (.fields [(key, value)] :: nodes, anchors, rest)
    | tokens =>
      let (node, anchors, rest) ← readNode handles n false false anchors tokens
      let (nodes, anchors, rest) ← readFlowItems handles n false anchors rest
      return (node :: nodes, anchors, rest)

/-- Reads the entries of a flow mapping and its end. A node without a colon is a key. -/
def readFlowFields (handles : Handles) :
    Nat → (isFirst : Bool) → Anchors → List Token → Option (Parsed (List (Node × Node)))
  | 0, _, _, _ => none
  | _ + 1, _, anchors, .flowMappingEnd :: rest => some ([], anchors, rest)
  | n + 1, isFirst, anchors, tokens => do
    let tokens ← if isFirst then some tokens else afterComma tokens
    match tokens with
    | .flowMappingEnd :: rest => return ([], anchors, rest)
    | .key :: rest =>
      let (key, anchors, rest) ←
        if endsFlowPart true rest then some (Node.absent, anchors, rest)
        else readNode handles n false false anchors rest
      let (value, anchors, rest) ← readFlowValue handles n anchors rest
      let (entries, anchors, rest) ← readFlowFields handles n false anchors rest
      return ((key, value) :: entries, anchors, rest)
    | tokens =>
      let (key, anchors, rest) ← readNode handles n false false anchors tokens
      let (entries, anchors, rest) ← readFlowFields handles n false anchors rest
      return ((key, Node.absent) :: entries, anchors, rest)

/-- Reads the value of an entry of a flow collection, which may be missing. -/
def readFlowValue (handles : Handles) : Nat → Anchors → List Token → Option (Parsed Node)
  | 0, _, _ => none
  | n + 1, anchors, .value :: rest =>
    if endsFlowPart false rest then some (Node.absent, anchors, rest)
    else readNode handles n false false anchors rest
  | _ + 1, anchors, rest => some (Node.absent, anchors, rest)

end

/-! ## Documents -/

/-- Reads the directives of a document: one version at most, of YAML 1.1 or 1.2, and handles that
    are not repeated. -/
def readDirectives (hasVersion : Bool) (handles : Handles) :
    List Token → Option (Handles × List Token)
  | .directive (.version major minor) :: rest => do
    guard (!hasVersion && major == 1 && (minor == 1 || minor == 2))
    readDirectives true handles rest
  | .directive (.tag handle uri) :: rest => do
    guard (handles.all (·.1 != handle))
    readDirectives hasVersion (handles ++ [(handle, uri)]) rest
  | rest => some (handles, rest)

/-- Is there nothing in the document behind its start? -/
def endsDocument : List Token → Bool
  | [] => true
  | .directive _ :: _ | .documentStart :: _ | .documentEnd :: _ => true
  | _ => false

/-- Does a document start here with a directive or with `---`? -/
def startsExplicitly : List Token → Bool
  | .directive _ :: _ | .documentStart :: _ => true
  | _ => false

/-- The node of the only document, and the tokens behind it. -/
def readDocument (tokens : List Token) : Option (Node × List Token) := do
  let depth := 2 * tokens.length + 2
  if startsExplicitly tokens then
    let (handles, tokens) ← readDirectives false [] tokens
    match tokens with
    | .documentStart :: rest =>
      if endsDocument rest then return (Node.absent, rest)
      else
        let (node, _, rest) ← readNode (handles ++ defaultHandles) depth true false [] rest
        return (node, rest)
    | _ => none
  else
    let (node, _, rest) ← readNode defaultHandles depth true false [] tokens
    return (node, rest)

/-- The node of tokens that hold one document, or none at all. -/
def Node.ofTokens? (tokens : List Token) : Option Node := do
  if tokens.isEmpty then return Node.absent
  let (node, rest) ← readDocument tokens
  guard (rest.all (· == .documentEnd) && decide (node.jumps ≤ 100 * node.weight))
  return node

/-- The characters without a byte order mark in front. -/
def dropByteOrderMark : List Char → List Char
  | c :: rest => if isByteOrderMark c then rest else c :: rest
  | [] => []

/-- The node of a text that holds one document, or none at all. -/
def parse? (s : String) : Option Node := do
  Node.ofTokens? (← scan (dropByteOrderMark s.toList))

end AsyncIdioms.Yaml
