/-
# Marking.TypeRegistry -- the owning types seen, and what was made for them

The registry knows types by their unit keys: the first object used for a key is the
one it remembers.  Each known type has at most one injector, made when it is first
asked for, in which handlers note that they made something.

Injectors are shared: what is handed out is the place of the one that the registry keeps
(`TypeRegistry.Handle`), so a note made through one handle is seen through every other.
-/
import Marking.Journal
import Marking.Value.Attribute

set_option autoImplicit false

namespace Marking

/-- What handlers note about one type. -/
structure Injector where
  type : Value
  key : UnitKey
  provided : Bool := false
  members : List (String × Value) := []

/-- The known types in the order in which they were first seen, and their
injectors. -/
structure TypeRegistry where
  types : List (UnitKey × Value) := []
  injectors : List Injector := []

namespace TypeRegistry

def source : String := "core.context"

def isKnownKey (r : TypeRegistry) (k : UnitKey) : Bool := r.types.any fun t => t.1 = k

/-- An injector as it is handed out, by its place in the registry. -/
structure Handle where
  place : Nat
  deriving DecidableEq, Repr, Inhabited

def at? (r : TypeRegistry) (h : Handle) : Option Injector := r.injectors[h.place]?

def handle? (r : TypeRegistry) (k : UnitKey) : Option Handle :=
  (r.injectors.findIdx? fun i => i.key = k).map Handle.mk

/-- Remembers an object under its key, unless the key is known. -/
def learn (r : TypeRegistry) (k : UnitKey) (v : Value) : TypeRegistry × Journal :=
  if r.isKnownKey k then (r, [])
  else ({ r with types := r.types ++ [(k, v)] },
    [.debug source ("Type " ++ k.name ++ " is now known")])

/-- The handle of the injector under a key, which is made if there is none. -/
def equip (r : TypeRegistry) (k : UnitKey) (v : Value) : Handle × TypeRegistry :=
  match r.handle? k with
  | some h => (h, r)
  | none =>
    (⟨r.injectors.length⟩, { r with injectors := r.injectors ++ [{ type := v, key := k }] })

def addType (r : TypeRegistry) (v : Value) : Except Fault (TypeRegistry × Journal) :=
  (UnitKey.ofValue v).map fun k => r.learn k v

/-- The injector of a type, made if there is none. -/
def getInjector (r : TypeRegistry) (v : Value) :
    Except Fault (Handle × TypeRegistry × Journal) :=
  (UnitKey.ofValue v).map fun k =>
    let (r, notes) := r.learn k v
    let (h, r) := r.equip k v
    (h, r, notes)

def updateInjector (r : TypeRegistry) (h : Handle) (f : Injector → Injector) : TypeRegistry :=
  { r with injectors := r.injectors.modify h.place f }

/-- Records through a handle that something was made for its type. -/
def markProvided (r : TypeRegistry) (h : Handle) : TypeRegistry :=
  r.updateInjector h fun i => { i with provided := true }

/-- Stores a value under a name with the type of a handle. -/
def setMember (r : TypeRegistry) (h : Handle) (name : String) (v : Value) : TypeRegistry :=
  r.updateInjector h fun i =>
    { i with members :=
        if i.members.any (fun m => m.1 == name) then
          i.members.map fun m => if m.1 == name then (name, v) else m
        else i.members ++ [(name, v)] }

/-- The objects remembered, in the order in which their keys were first seen. -/
def knownTypes (r : TypeRegistry) : List Value := r.types.map Prod.snd

def size (r : TypeRegistry) : Nat := r.types.length

def isKnown (r : TypeRegistry) (v : Value) : Except Fault Bool :=
  (UnitKey.ofValue v).map r.isKnownKey

def isProvided (r : TypeRegistry) (v : Value) : Except Fault Bool :=
  (UnitKey.ofValue v).map fun k =>
    (((r.handle? k).bind r.at?).map Injector.provided).getD false

/-- A type in short: a text is itself, a class or another object has its qualified
name; an object without one has no label. -/
def label (v : Value) : Except Fault String :=
  match v with
  | .str s => .ok s
  | v =>
    v.qualifiedName.map fun n => (if v.isClass then "<class " else "<other ") ++ n ++ ">"

def labels (r : TypeRegistry) : Except Fault (List String) := r.knownTypes.mapM label

end TypeRegistry

end Marking
