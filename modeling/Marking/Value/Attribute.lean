/-
# Marking.Value.Attribute -- names, keys and members of values

The qualified name of an object is its module and its own name; objects that are
always in scope and objects without a module have their name alone.  A unit key is
made from a key, a text, a class or anything that can be called
(`UnitKey.ofValue`), and a set of keys from what a handler names as its
dependencies (`Value.dependencies`).
-/
import Marking.Fault
import Marking.Value.Equality

set_option autoImplicit false

namespace Marking

namespace Value

/-- The module in which the package's own key and kind types live. -/
def identityModule : String := "markgen.core.identity"

def mergeModule : String := "markgen.core.merge"

/-- The module of an object: nothing when it has no such member, a missing name when
it has one that is not set. -/
def module? : Value → Option (Option String)
  | key _ | kind _ => some (some identityModule)
  | policy _ => some (some mergeModule)
  | classRef m _ _ | function m _ => some m
  | builtin _ => some (some "builtins")
  | thing t => some t.module
  | markerType t => some t.module
  | marker m => some m.type.module
  | _ => none

/-- The member of a marker that is its name, unless that is null. -/
def nameAttribute? (m : Marker) : Option Value :=
  (m.attribute? "__name__").filter fun v => match v with
    | null => false
    | _ => true

/-- The own name of an object.  A marker carries its names as attributes, and they may be any
values. -/
def ownName? : Value → Option Value
  | classRef _ q _ | function _ q => some (str q)
  | builtin b => some (str b.name)
  | thing t =>
    match t.qualname with
    | some "" | none => t.name.map str
    | some q => some (str q)
  | markerType t => some (str t.name)
  | marker m => (m.attribute? "__qualname__").filter isTrue <|> nameAttribute? m
  | _ => none

/-- The short name of an object, by which messages call it. -/
def shortName? : Value → Option Value
  | classRef _ q _ | function _ q => some (str (Text.lastComponent q))
  | builtin b => some (str b.name)
  | thing t => t.name.map str
  | markerType t => some (str t.name)
  | marker m => m.attribute? "__name__"
  | _ => none

/-- A name behind the module that it stands in, where that is named. -/
def qualified (module : Option (Option String)) (name : String) : String :=
  match module with
  | none | some none | some (some "builtins") => name
  | some (some m) => m ++ "." ++ name

def qualifiedName (v : Value) : Except Fault String :=
  match v.ownName? with
  | none => .error (.showing v.expression .noQualifiedName)
  | some name => name.text.map (qualified v.module?)

def isClass : Value → Bool
  | classRef .. | markerType _ => true
  | builtin b => b.isClass
  | _ => false

def isCallable : Value → Bool
  | function .. | builtin _ | marker _ | classRef .. | markerType _ => true
  | thing t => t.callable
  | _ => false

/-- The items that a loop over the value meets. -/
def items? : Value → Option (List Value)
  | list vs | tuple vs | set vs => some vs
  | dict es => some (es.map Prod.fst)
  | str s => some (s.toList.map fun c => str (String.singleton c))
  | bytes bs => some (bs.map fun b => int b.toNat)
  | _ => none

/-- The items that a loop over the value meets; a value without items is refused. -/
def items (v : Value) : Except Fault (List Value) :=
  match v.items? with
  | some vs => .ok vs
  | none => .error (.notIterable v.typeName)

def markersAmong (vs : List Value) : List Marker :=
  vs.filterMap fun v =>
    match v with
    | marker m => some m
    | _ => none

/-- The markers attached to an object itself.  A marker may have an attribute in their
place. -/
def attachedMarkers : Value → Except Fault (List Marker)
  | classRef _ _ ms => .ok ms
  | marker m =>
    match m.attribute? "__markers__" with
    | some v => v.items.map markersAmong
    | none => .ok []
  | _ => .ok []

end Value

namespace UnitKey

/-- The key of a value: a key is itself, a text names a type, a class is named by its
qualified name, and so is anything callable, at the level of methods. -/
def ofValue (v : Value) : Except Fault UnitKey :=
  match v with
  | .key k => .ok k
  | .str s => if s.isEmpty then .error .emptyKeyName else .ok ⟨s, .type⟩
  | v =>
    if v.isClass then v.qualifiedName.map fun n => ⟨n, .type⟩
    else if v.isCallable then v.qualifiedName.map fun n => ⟨n, .method⟩
    else .error (.showing v.expression .noUnitKey)

/-- The keys of several values, up to the first that has none. -/
def ofValues : List Value → Except Fault (List UnitKey)
  | [] => .ok []
  | v :: vs =>
    match ofValue v with
    | .error f => .error f
    | .ok k =>
      match ofValues vs with
      | .error f => .error f
      | .ok ks => .ok (k :: ks)

end UnitKey

/-- The set of unit keys that a handler names: nothing, one key, text or class, or
a collection of them. -/
def Value.dependencies (v : Value) : Except Fault (List UnitKey) :=
  match v with
  | .null => .ok []
  | .str _ | .key _ => (UnitKey.ofValue v).map fun k => [k]
  | v =>
    if v.isClass then (UnitKey.ofValue v).map fun k => [k]
    else
      v.items.bind fun vs => (UnitKey.ofValues vs).map UnitKey.distinct

def ElementKind.ofValue (v : Value) : Except Fault ElementKind :=
  match v with
  | .kind k => .ok k
  | .str s =>
    match ElementKind.ofText? s with
    | some k => .ok k
    | none => .error (.unknownKind (Text.quoted s))
  | v => .error (.showing v.expression .unknownKind)

def Value.requireHashable (v : Value) : Except Fault Unit :=
  match v.unhashable? with
  | some t => .error (.unhashable t)
  | none => .ok ()

end Marking
