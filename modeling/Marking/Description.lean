/-
# Marking.Description -- values, markers and declarations from documents

A document describes values: plain data stands for itself, and an object with one of
the tags below stands for a key, a kind, a class, a function, another object, a
tuple, a marker type or a marker.  Marker types are described once, in order, and
named from then on.  A class is described where it is first mentioned; every later
mention of it is the same class.

A `Lexicon` holds what has been named so far.
-/
import Marking.Json
import Marking.Registry.Published
import Marking.Script

set_option autoImplicit false

namespace Marking

/-- The names that descriptions have introduced. -/
structure Lexicon where
  /-- Marker types by name, the latest first. -/
  types : List (String × MarkerType) :=
    [("Marker", .root), ("TestOnly", .testOnly)]
  /-- Classes by the text that names them. -/
  classes : List (String × Value) := []
  /-- The number of other objects. -/
  things : Nat := 0

/-- Reads descriptions while names are introduced. -/
abbrev Described (α : Type) := StateT Lexicon (Except Fault) α

namespace Description

def unknown (j : Json) : Fault := .showing j.value.expression (.foreign .key)

def typeNamed (name : String) : Described MarkerType := fun l =>
  match l.types.lookup name with
  | some t => .ok (t, l)
  | none => .error (unknown (.str name))

def splitColon (s : String) : String × String :=
  let cs := s.toList
  (String.ofList (cs.takeWhile (· != ':')), String.ofList ((cs.dropWhile (· != ':')).drop 1))

/-- The module before the colon, unless it is empty. -/
def moduleOf (s : String) : Option String :=
  let m := (splitColon s).1
  if m.isEmpty then none else some m

/-- The class that a text names, with its markers. -/
def newClass (spec : String) (markers : List Marker) : Described Value := fun l =>
  let v : Value := .classRef (moduleOf spec) (splitColon spec).2 markers
  .ok (v, { l with classes := (spec, v) :: l.classes })

def newThing (module qualname name : Option String) (callable : Bool) : Described Value := fun l =>
  .ok (.thing { serial := l.things, module, qualname, name, callable },
    { l with things := l.things + 1 })

/-- The names that are classes, among those always in scope. -/
def builtinClasses : List String :=
  ["bool", "bytearray", "bytes", "classmethod", "complex", "dict", "enumerate", "filter", "float",
   "frozenset", "int", "list", "map", "memoryview", "object", "property", "range", "reversed",
   "set", "slice", "staticmethod", "str", "super", "tuple", "type", "zip", "BaseException",
   "Exception", "ArithmeticError", "AssertionError", "AttributeError", "ImportError",
   "IndexError", "KeyError", "LookupError", "NameError", "OSError", "OverflowError",
   "RuntimeError", "StopIteration", "TypeError", "ValueError"]

/-- An attribute of a marker: a name and the document of its value. -/
def pairOf : Json → String × Json
  | .list [.str name, j] => (name, j)
  | _ => ("", .null)

/-- How deep a described value may nest. -/
def depthLimit : Nat := 1000

/-- The tags of objects that stand for more than plain data. -/
def tags : List String :=
  ["$key", "$kind", "$class", "$func", "$builtin", "$obj", "$tuple", "$type", "$marker"]

def tagged (j : Json) : Option (String × Json) :=
  tags.findSome? fun tag => (j.field? tag).map fun v => (tag, v)

/-- A text under a name, unless it is null. -/
def textUnder (j : Json) (name : String) : Option String := (j.given? name).bind Json.text?

def kindNamed (j : Json) : Described ElementKind := fun l =>
  match j.text?.bind ElementKind.ofName? with
  | some k => .ok (k, l)
  | none => .error (unknown j)

/-- The kind under a name; a type when there is none. -/
def kindUnder (j : Json) (name : String) : Described ElementKind :=
  ((j.given? name).map kindNamed).getD (pure .type)

mutual

/-- The value that a document describes; `depth` bounds the nesting. -/
def readValue : (depth : Nat) → Json → Described Value
  | 0, _ => pure .null
  | depth + 1, j =>
    match j with
    | .list js => return .list (← js.mapM (readValue depth))
    | .object entries =>
      match tagged j with
      | some ("$key", k) => return .key ⟨k.text, ← kindUnder j "kind"⟩
      | some ("$kind", k) => return .kind (← kindNamed k)
      | some ("$class", k) => do
        let known := (← get).classes.lookup k.text
        let markers ← (j.field "markers").items.mapM (readMarker depth)
        match known with
        | some v => return v
        | none => newClass k.text markers
      | some ("$func", k) => return .function (moduleOf k.text) (splitColon k.text).2
      | some ("$builtin", k) => return .builtin ⟨k.text, builtinClasses.contains k.text⟩
      | some ("$obj", o) =>
        newThing (textUnder o "module") (textUnder o "qualname") (textUnder o "name")
          ((j.field "callable").truth?.getD false)
      | some ("$tuple", k) => return .tuple (← k.items.mapM (readValue depth))
      | some ("$type", k) => return .markerType (← typeNamed k.text)
      | some ("$marker", k) => return .marker (← readMarker depth k)
      | _ => do
        let values ← entries.mapM fun e => readValue depth e.2
        return .dict ((entries.map fun e => Value.str e.1).zip values)
    | j => pure j.value

def readMarker : (depth : Nat) → Json → Described Marker
  | 0, _ => pure default
  | depth + 1, j => do
    let t ← typeNamed (j.field "m").text
    let pairs := (j.field "a").items.map pairOf
    let values ← pairs.mapM fun p => readValue depth p.2
    StateT.lift (Marker.make t ((pairs.map Prod.fst).zip values))

end

def value (j : Json) : Described Value := readValue depthLimit j

def values (js : List Json) : Described (List Value) := js.mapM value

def marker (j : Json) : Described Marker := readMarker depthLimit j

def markers (js : List Json) : Described (List Marker) := js.mapM marker

/-- Introduces a marker type; without targets of its own it has those of its base. -/
def introduce (j : Json) : Described Unit := do
  let base ← typeNamed ((textUnder j "base").getD "Marker")
  let targets ← (j.field? "targets").mapM value
  let name := (j.field "name").text
  let module := (textUnder j "module").getD "app.markers"
  modify fun l =>
    { l with types := (name, base.derive l.types.length name (some module) targets) :: l.types }

def introduceAll (js : List Json) : Described Unit := js.forM introduce

/-- A reference to a marker type: the name of one, or any value. -/
def markerOrValue (j : Json) : Described Value := do
  let l ← get
  match j with
  | .str name =>
    match l.types.lookup name with
    | some t => return .markerType t
    | none => return .str name
  | j => value j

/-- The declaration that a document describes, not yet made. -/
def draft (j : Json) : Described Draft := do
  let owner ← value (j.field "owner")
  let markers ← markers (j.field "markers").items
  return ⟨← kindUnder j "kind", owner, (j.field "name").text, markers⟩

def declaration (j : Json) : Described Declaration := do
  StateT.lift (← draft j).make

def rule (j : Json) : Described (Option Rule) := do
  match j with
  | .list [.str side, .str name] =>
    let t ← typeNamed name
    return (Side.ofWord? side).map fun s => ⟨s, t⟩
  | _ => return none

def rules (j : Json) : Described (List Rule) := do
  return (← j.items.mapM rule).filterMap id

/-- The rules that a document offers, or the fault of reading them from a value that lists none. -/
def ruleOffer (j : Json) : Described (Except Fault RuleOffer) := do
  match j with
  | .null => return .ok .absent
  | .list _ => return .ok (.rules (← rules j))
  | j => return .error (.notIterable j.value.typeName)

def scriptOptions : List String :=
  ["check_raise", "check_reenter", "as_", "requires", "outcomes", "gives", "provide"]

def script (tag : String) (j : Json) : Described Script := do
  let given := scriptOptions.filterMap fun name => (j.field? name).map fun v => (name, v)
  let values ← values (given.map Prod.snd)
  return ⟨tag, (given.map Prod.fst).zip values⟩

def form (j : Json) : Script.Form :=
  match textUnder j "kind" with
  | some "function" => .functions
  | some "nocheck" => .single
  | _ => .own

def scriptedHandler (host : Script.Host) (tag : String) (j : Json) :
    Described (Handler Script.State) := do
  let s ← script tag j
  let f := form j
  return s.handler f (if f = .own then "ScriptHandler" else "FunctionHandler") host

def read {α : Type} (l : Lexicon) (d : Described α) : Except Fault (α × Lexicon) := d l

end Description

end Marking
