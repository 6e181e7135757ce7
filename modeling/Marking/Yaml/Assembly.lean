/-
# Marking.Yaml.Assembly -- the values of nodes

A node that holds others becomes a container.  It is empty at first and its content is
put in later, so a node may hold itself.  `Assembling.start` makes the value of a node or
the empty container for it; `Assembling.finish` puts the content into a container.  All
containers that wait are finished in order before those that this has started, and so of
two faults the one nearer to the top of the document is met.

Before a mapping is read, its merging keys are replaced by the entries that they bring
(`Assembling.flatten`).  This changes the node for whoever refers to it, and it takes one
merging key out of the document at each step, so the number of entries in a document
bounds the number of steps.
-/
import Marking.Yaml.Node
import Marking.Yaml.Scalar

set_option autoImplicit false

namespace Marking.Yaml

/-- An item of a list: the value of a node, or a pair of such values. -/
inductive Item where
  | node (place : Nat)
  | pair (key value : Nat)
  deriving Repr

/-- What has become of a node. -/
inductive Part where
  | leaf (v : Value)
  | list (items : List Item)
  | dict (entries : List (Nat × Nat))
  | set (members : List Nat)
  deriving Inhabited

/-- The empty container for a node of a kind; a node of another kind has a value of its
own. -/
def Part.container? : Tag → Option Part
  | .mapping => some (.dict [])
  | .set => some (.set [])
  | .sequence | .orderedMapping | .pairs => some (.list [])
  | _ => none

/-- The nodes of a document, what has become of each of them, and the containers that
wait for their content. -/
structure Assembly where
  nodes : Array Node
  parts : Array (Option Part)
  waiting : Array Nat := #[]

abbrev Assembling := StateT Assembly (Except Fault)

namespace Assembling

def node (place : Nat) : Assembling Node := return (← get).nodes.getD place default

def part? (place : Nat) : Assembling (Option Part) := return (← get).parts.getD place none

def make (place : Nat) (p : Part) : Assembling Unit :=
  modify fun a => { a with parts := a.parts.setIfInBounds place (some p) }

def change (place : Nat) (entries : List (Nat × Nat)) : Assembling Unit :=
  modify fun a => { a with
    nodes := a.nodes.modify place fun n => { n with content := .mapping entries } }

def entriesOf (place : Nat) : Assembling (List (Nat × Nat)) := do
  match (← node place).content with
  | .mapping entries => return entries
  | _ => throw .malformedDocument

/-! ## Merging keys -/

def hasTag (nodes : Array Node) (tag : Tag) (place : Nat) : Bool :=
  (nodes.getD place default).tag == tag

/-- Splits entries at the first merging key. -/
def splitMerge (nodes : Array Node) : List (Nat × Nat) →
    Option (Nat × List (Nat × Nat))
  | [] => none
  | e :: es =>
    if hasTag nodes .merge e.1 then some (e.2, es)
    else (splitMerge nodes es).map fun (v, rest) => (v, e :: rest)

/-- The default sign as a key is a text. -/
def settleDefaults (entries : List (Nat × Nat)) : Assembling Unit :=
  modify fun a => { a with
    nodes := entries.foldl
      (fun nodes e =>
        if hasTag nodes .default e.1 then nodes.modify e.1 fun n => { n with tag := .text }
        else nodes)
      a.nodes }

/-- Takes the merging keys out of a mapping.  `brought` is what those before have brought:
in the end it stands in front of the entries that are left.  The value of a merging key
is a mapping, or a sequence of mappings of which the last comes first. -/
def flattenFrom : (fuel : Nat) → (brought : List (Nat × Nat)) → (place : Nat) → Assembling Unit
  | 0, _, _ => throw .tooDeep
  | fuel + 1, brought, place => do
    let entries ← entriesOf place
    match splitMerge (← get).nodes entries with
    | none =>
      settleDefaults entries
      change place (brought ++ entries)
    | some (value, rest) =>
      change place rest
      match (← node value).content with
      | .scalar _ => throw .malformedDocument
      | .mapping _ =>
        flattenFrom fuel [] value
        flattenFrom fuel (brought ++ (← entriesOf value)) place
      | .sequence items =>
        let groups ← items.mapM fun item => do
          let _ ← entriesOf item
          flattenFrom fuel [] item
          entriesOf item
        flattenFrom fuel (brought ++ groups.reverse.flatten) place

def entryCount (n : Node) : Nat :=
  match n.content with
  | .mapping entries => entries.length
  | _ => 0

/-- Takes the merging keys out of a mapping. -/
def flatten (bound : Nat) (place : Nat) : Assembling Unit := flattenFrom (bound + 1) [] place

/-! ## Values -/

/-- The text of a scalar, or the text that the default entry of a mapping leads to. -/
def textFrom (nodes : Array Node) : (fuel : Nat) → (place : Nat) → Except Fault String
  | 0, _ => .error .tooDeep
  | fuel + 1, place =>
    match (nodes.getD place default).content with
    | .scalar text => .ok text
    | .sequence _ => .error .malformedDocument
    | .mapping entries =>
      match entries.find? fun e => hasTag nodes .default e.1 with
      | some e => textFrom nodes fuel e.2
      | none => .error .malformedDocument

/-- The value of a node that is no container.  A moment has to be written by the node
itself. -/
def leafOf (place : Nat) : Assembling Value := do
  let n ← node place
  if !Tag.isWritten n.tag then throw .malformedDocument
  let nodes := (← get).nodes
  let text ← textFrom nodes (nodes.size + 1) place
  match n.tag, n.content with
  | .moment, .mapping _ => throw (.notText "list")
  | tag, _ => scalarValue tag text

/-- Makes the value of a node, or starts its container. -/
def start (place : Nat) : Assembling Unit := do
  if (← part? place).isNone then
    match Part.container? (← node place).tag with
    | none => make place (.leaf (← leafOf place))
    | some p =>
      make place p
      modify fun a => { a with waiting := a.waiting.push place }

/-- The value of a node, which has to be no container. -/
def leaf (place : Nat) : Assembling Value := do
  match ← part? place with
  | some (.leaf v) => return v
  | _ => throw .malformedDocument

def isNoNumber (v : Value) : Bool :=
  match v with
  | .float x => Number.parts x == .nan
  | _ => false

/-- Two keys are the same: their values are equal, or both are no number, of which there
is one. -/
def sameKey (a b : Nat) : Assembling Bool := do
  let v ← leaf a
  let w ← leaf b
  return Value.eq v w || (isNoNumber v && isNoNumber w)

/-- Puts an entry among others: a known key keeps its place and takes the value. -/
def putEntry (k v : Nat) : List (Nat × Nat) → Assembling (List (Nat × Nat))
  | [] => return [(k, v)]
  | e :: es => do
    if ← sameKey e.1 k then return (e.1, v) :: es
    return e :: (← putEntry k v es)

/-- Starts the entries of a mapping, each key of which has to be no container. -/
def dictionary : (known : List (Nat × Nat)) → List (Nat × Nat) → Assembling (List (Nat × Nat))
  | known, [] => return known
  | known, (k, v) :: rest => do
    start k
    let _ ← leaf k
    start v
    dictionary (← putEntry k v known) rest

def pairOf (place : Nat) : Assembling Item := do
  match ← entriesOf place with
  | [(k, v)] =>
    start k
    start v
    return .pair k v
  | _ => throw .malformedDocument

/-- Puts the content into the container of a node. -/
def finish (bound : Nat) (place : Nat) : Assembling Unit := do
  let n ← node place
  match n.tag, n.content with
  | .sequence, .sequence items =>
    items.forM start
    make place (.list (items.map .node))
  | .orderedMapping, .sequence items | .pairs, .sequence items =>
    make place (.list (← items.mapM pairOf))
  | .mapping, .mapping _ =>
    flatten bound place
    make place (.dict (← dictionary [] (← entriesOf place)))
  | .set, .mapping _ =>
    flatten bound place
    make place (.set ((← dictionary [] (← entriesOf place)).map Prod.fst))
  | _, _ => throw .malformedDocument

/-- Finishes the containers that wait, then those that this has started, and so on. -/
def finishAll (bound : Nat) : (fuel : Nat) → Assembling Unit
  | 0 => return ()
  | fuel + 1 => do
    let waiting := (← get).waiting
    if waiting.isEmpty then return ()
    modify fun a => { a with waiting := #[] }
    waiting.forM (finish bound)
    finishAll bound fuel

end Assembling

/-- What becomes of the nodes of a document. -/
def Tree.assemble (t : Tree) : Except Fault (Array (Option Part)) :=
  let bound := t.nodes.foldl (fun count node => count + Assembling.entryCount node) 0
  let making : Assembling Unit := do
    Assembling.start t.top
    Assembling.finishAll bound (t.nodes.size + 1)
  (making.run { nodes := t.nodes, parts := Array.replicate t.nodes.size none }).map
    fun r => r.2.parts

end Marking.Yaml
