/-
# Marking.Yaml -- documents as values

`Yaml.read` reads the one document in a text.  Scalars are read by their kind; mappings
are dictionaries in which a repeated key keeps its place and takes the last value, and a
mapping may take in the entries of others.

A text that breaks a rule of the format is a malformed document.  A scalar whose kind
promises a value that its text does not write, such as a date in no calendar, is a
fault of its own.

A document may hold a part of itself inside that part.  As a value it is written out
from the top, and where a container is met inside itself, only that is noted
(`Value.enclosing`).  A part of a document is written out by itself, so what counts as
inside is seen from there.
-/
import Marking.Value.Arrangement
import Marking.Yaml.Assembly

set_option autoImplicit false

namespace Marking.Yaml

/-- What has become of the nodes of a document, and the place of the outermost one. -/
structure Document where
  parts : Array (Option Part)
  top : Nat

namespace Document

def part (d : Document) (place : Nat) : Part := (d.parts.getD place none).getD (.leaf .null)

/-- The value of a part inside the containers at the given places. -/
def valueIn (d : Document) : (fuel : Nat) → (around : List Nat) → (place : Nat) → Value
  | 0, _, _ => .null
  | fuel + 1, around, place =>
    let inside := d.valueIn fuel (place :: around)
    match d.part place with
    | .leaf v => v
    | .set members => .set (Value.arranged (members.map inside))
    | .list items =>
      if around.contains place then .enclosing false
      else
        .list (items.map fun item =>
          match item with
          | .node n => inside n
          | .pair k v => .tuple [inside k, inside v])
    | .dict entries =>
      if around.contains place then .enclosing true
      else .dict (entries.map fun e => (inside e.1, inside e.2))

/-- The value of a part, written out from there.  No place is inside itself twice, so the
number of places bounds the depth. -/
def valueAt (d : Document) (place : Nat) : Value := d.valueIn (d.parts.size + 1) [] place

def value (d : Document) : Value := d.valueAt d.top

/-- The items of a list, each of them written out by itself; a part that is no list is
written out as a whole. -/
def itemsAt (d : Document) (place : Nat) : Value :=
  match d.part place with
  | .list items =>
    .list (items.map fun item =>
      match item with
      | .node n => d.valueAt n
      | .pair k v => .tuple [d.valueAt k, d.valueAt v])
  | _ => d.valueAt place

/-- A part without what its containers hold: enough to tell its type, and whether it is
empty. -/
def outlineAt (d : Document) (place : Nat) : Value :=
  match d.part place with
  | .leaf v => v
  | .list items => .list (items.map fun _ => .null)
  | .dict entries => .dict (entries.map fun _ => (.null, .null))
  | .set members => .set (members.map fun _ => .null)

end Document

/-- Line ends of every kind become line feeds. -/
def lineFeeds : List Char → List Char
  | '\r' :: '\n' :: cs => '\n' :: lineFeeds cs
  | '\r' :: cs => '\n' :: lineFeeds cs
  | c :: cs => c :: lineFeeds cs
  | [] => []

def Document.empty : Document := ⟨#[some (.leaf .null)], 0⟩

/-- The document in a text; nothing when there is none. -/
def read (s : String) : Except Fault Document :=
  match Token.scan (String.ofList (lineFeeds s.toList)) with
  | none => .error .malformedDocument
  | some tokens =>
    (Tree.ofTokens tokens).bind fun tree =>
      match tree with
      | none => .ok .empty
      | some t => t.assemble.map fun parts => ⟨parts, t.top⟩

end Marking.Yaml
