/-
# Marking.Yaml.Node -- the nodes of a document

A node is a scalar, a sequence or a mapping, each with its kind.  The nodes of a
document stand in one array and refer to each other by their places.  A node with a
name can be referred to further down, also from inside itself; a name is given once.
`Tree.ofTokens` builds the nodes of the one document in a text.

Nodes that stand too deep inside others are refused.

Every node and every entry takes a token or is empty where one was expected, so a
bound of three steps a token is never reached.
-/
import Marking.Yaml.Tag
import Marking.Yaml.Token.Lexer

set_option autoImplicit false

namespace Marking.Yaml

/-- What a node holds: a text, or the places of other nodes. -/
inductive Content where
  | scalar (text : String)
  | sequence (items : List Nat)
  | mapping (entries : List (Nat × Nat))
  deriving Repr, Inhabited

structure Node where
  tag : Tag
  content : Content
  deriving Repr

/-- The node where nothing is written. -/
def Node.empty : Node := ⟨.null, .scalar ""⟩

instance : Inhabited Node := ⟨Node.empty⟩

/-- The nodes of a document, and the place of the one that holds the others. -/
structure Tree where
  nodes : Array Node
  top : Nat

namespace Node

/-- What is left of the tokens, the meanings of handles, the named nodes, and the nodes
read so far. -/
structure Reader where
  tokens : List Token
  handles : List (String × String) := [("!", "!"), ("!!", Tag.home)]
  named : List (String × Nat) := []
  nodes : Array Node := #[]
  /-- How many nodes stand around the one that is read. -/
  depth : Nat := 0

abbrev Reading := StateT Reader (Except Fault)

namespace Reading

def next : Reading Token := return (← get).tokens.headD .streamEnd

/-- Nothing comes of the document: a rule is broken, or the text itself is. -/
def refuse {α : Type} : Reading α := do
  match ← next with
  | .broken fault => throw fault
  | _ => throw .malformedDocument

def pass : Reading Unit := modify fun r => { r with tokens := r.tokens.drop 1 }

/-- Passes the next token if it is the given one, and says whether it was. -/
def passIf (t : Token) : Reading Bool := do
  if (← next) == t then
    pass
    return true
  return false

def expect (t : Token) : Reading Unit := do
  unless ← passIf t do refuse

/-- A place for a node, known by its name from now on. -/
def reserve (name : Option String) : Reading Nat := do
  let place := (← get).nodes.size
  if let some name := name then
    if ((← get).named.lookup name).isSome then refuse
    modify fun r => { r with named := (name, place) :: r.named }
  modify fun r => { r with nodes := r.nodes.push Node.empty }
  return place

def settle (place : Nat) (tag : Tag) (content : Content) : Reading Nat := do
  modify fun r => { r with nodes := r.nodes.setIfInBounds place ⟨tag, content⟩ }
  return place

/-- How many nodes may stand around a node. -/
def depthLimit : Nat := 487

def inside {α : Type} (content : Reading α) : Reading α := do
  let outer := (← get).depth
  if depthLimit ≤ outer then throw .tooDeep
  modify fun r => { r with depth := outer + 1 }
  let a ← content
  modify fun r => { r with depth := outer }
  return a

/-- A place for the node where nothing is written. -/
def nothing : Reading Nat := reserve none

def named (name : String) : Reading Nat := do
  match (← get).named.lookup name with
  | some place => return place
  | none => refuse

def address (t : WrittenTag) : Reading String := do
  match t.handle with
  | none => return t.suffix
  | some handle =>
    match (← get).handles.lookup handle with
    | some meaning => return meaning ++ t.suffix
    | none => refuse

def anchorPart : Reading (Option String) := do
  match ← next with
  | .anchor name =>
    pass
    return some name
  | _ => return none

def tagPart : Reading (Option String) := do
  match ← next with
  | .tag t =>
    pass
    return some (← address t)
  | _ => return none

/-- The name and the address of the tag in front of a node, in either order. -/
def properties : Reading (Option String × Option String) := do
  match ← anchorPart with
  | some name => return (some name, ← tagPart)
  | none =>
    let tag ← tagPart
    return (← anchorPart, tag)

end Reading

open Reading

/-- The kind of a scalar: what is written, or what follows from its form. -/
def scalarTag (address : Option String) (plain : Bool) (text : String) : Tag :=
  match address with
  | none => if plain then .ofPlain text else .text
  | some "!" => .ofPlain text
  | some a => .ofAddress a

def partsTag (address : Option String) (usual : Tag) : Tag :=
  match address with
  | none | some "!" => usual
  | some a => .ofAddress a

/-- A token behind which nothing stands for an item of a sequence. -/
def endsItem (indentless : Bool) (t : Token) : Bool :=
  t == .item || t == .blockEnd || (indentless && (t == .key || t == .value))

/-- A token before which nothing stands for a key or a value of a mapping. -/
def endsPart (t : Token) : Bool := t == .key || t == .value || t == .blockEnd

def endsFlowKey (close : Token) (t : Token) : Bool := t == .value || t == .flowEntry || t == close

def endsFlowValue (close : Token) (t : Token) : Bool := t == .flowEntry || t == close

mutual

/-- A node.  `block` allows blocks, `indentless` a sequence at the indentation of its
mapping. -/
def read (block indentless : Bool) : (fuel : Nat) → Reading Nat
  | 0 => refuse
  | fuel + 1 => do
    match ← next with
    | .reference name =>
      pass
      named name
    | _ =>
      let (name, address) ← properties
      match ← next with
      | .scalar text plain =>
        pass
        settle (← reserve name) (scalarTag address plain text) (.scalar text)
      | .flowSequenceStart =>
        pass
        let place ← reserve name
        settle place (partsTag address .sequence) (.sequence (← inside (flowItems true fuel)))
      | .flowMappingStart =>
        pass
        let place ← reserve name
        settle place (partsTag address .mapping) (.mapping (← inside (flowEntries true fuel)))
      | t =>
        if indentless && t == .item then
          let place ← reserve name
          settle place (partsTag address .sequence) (.sequence (← inside (blockItems true fuel)))
        else if block && t == .sequenceStart then
          pass
          let place ← reserve name
          settle place (partsTag address .sequence) (.sequence (← inside (blockItems false fuel)))
        else if block && t == .mappingStart then
          pass
          let place ← reserve name
          settle place (partsTag address .mapping) (.mapping (← inside (blockEntries fuel)))
        else if name.isSome || address.isSome then
          settle (← reserve name) (scalarTag address true "") (.scalar "")
        else refuse

/-- A node, or the empty one before a token that ends it. -/
def readUnless (ends : Token → Bool) (block indentless : Bool) : (fuel : Nat) → Reading Nat
  | 0 => refuse
  | fuel + 1 => do
    if ends (← next) then nothing
    else read block indentless fuel

def blockItems (indentless : Bool) : (fuel : Nat) → Reading (List Nat)
  | 0 => refuse
  | fuel + 1 => do
    if ← passIf .item then
      let n ← readUnless (endsItem indentless) true false fuel
      return n :: (← blockItems indentless fuel)
    unless indentless do expect .blockEnd
    return []

def blockEntries : (fuel : Nat) → Reading (List (Nat × Nat))
  | 0 => refuse
  | fuel + 1 => do
    if ← passIf .key then
      let k ← readUnless endsPart true true fuel
      let v ← if ← passIf .value then readUnless endsPart true true fuel else nothing
      return (k, v) :: (← blockEntries fuel)
    expect .blockEnd
    return []

/-- The value of an entry inside brackets, which may be missing. -/
def flowValue (close : Token) : (fuel : Nat) → Reading Nat
  | 0 => refuse
  | fuel + 1 => do
    if ← passIf .value then readUnless (endsFlowValue close) false false fuel
    else nothing

def flowItems (first : Bool) : (fuel : Nat) → Reading (List Nat)
  | 0 => refuse
  | fuel + 1 => do
    if ← passIf .flowSequenceEnd then return []
    unless first do expect .flowEntry
    if ← passIf .key then
      let entry ← inside do
        let k ← readUnless (endsFlowKey .flowSequenceEnd) false false fuel
        let v ← flowValue .flowSequenceEnd fuel
        settle (← nothing) .mapping (.mapping [(k, v)])
      return entry :: (← flowItems false fuel)
    if ← passIf .flowSequenceEnd then return []
    let n ← read false false fuel
    return n :: (← flowItems false fuel)

def flowEntries (first : Bool) : (fuel : Nat) → Reading (List (Nat × Nat))
  | 0 => refuse
  | fuel + 1 => do
    if ← passIf .flowMappingEnd then return []
    unless first do expect .flowEntry
    if ← passIf .key then
      let k ← readUnless (endsFlowKey .flowMappingEnd) false false fuel
      let v ← flowValue .flowMappingEnd fuel
      return (k, v) :: (← flowEntries false fuel)
    if ← passIf .flowMappingEnd then return []
    let n ← read false false fuel
    let v ← nothing
    return (n, v) :: (← flowEntries false fuel)

end

/-- The directives in front of a document; `versioned` says that one stated a version. -/
def directives (versioned : Bool) : (fuel : Nat) → Reading Unit
  | 0 => refuse
  | fuel + 1 => do
    match ← next with
    | .version major =>
      if versioned || major != 1 then refuse
      pass
      directives true fuel
    | .handle handle meaning =>
      if ((← get).handles.lookup handle).isSome then refuse
      modify fun r => { r with handles := (handle, meaning) :: r.handles }
      pass
      directives versioned fuel
    | .otherDirective =>
      pass
      directives versioned fuel
    | _ => return ()

def passEnds : (fuel : Nat) → Reading Unit
  | 0 => refuse
  | fuel + 1 => do
    if ← passIf .documentEnd then passEnds fuel

def opensDocument (t : Token) : Bool :=
  match t with
  | .version _ | .handle .. | .otherDirective | .documentStart => true
  | _ => false

def endsDocument (t : Token) : Bool := opensDocument t || t == .documentEnd || t == .streamEnd

/-- The handles that a document may give another meaning. -/
def usualHandles : List (String × String) := [("!", "!"), ("!!", Tag.home)]

def explicitDocument (fuel : Nat) : Reading Nat := do
  modify fun r => { r with handles := [] }
  directives false fuel
  modify fun r => { r with handles := r.handles ++ usualHandles }
  expect .documentStart
  readUnless endsDocument true false fuel

/-- The document of a text, if there is one; further documents are refused. -/
def document (fuel : Nat) : Reading (Option Tree) := do
  let first ← next
  if first == .streamEnd then return none
  let top ← if opensDocument first then explicitDocument fuel else read true false fuel
  passEnds fuel
  expect .streamEnd
  return some ⟨(← get).nodes, top⟩

end Node

/-- The nodes of the document in a text; nothing stands for a text without a document. -/
def Tree.ofTokens (ts : List Token) : Except Fault (Option Tree) :=
  ((Node.document (3 * ts.length + 3)).run { tokens := ts }).map Prod.fst

end Marking.Yaml
