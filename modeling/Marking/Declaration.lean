/-
# Marking.Declaration -- a marked element of the scanned code

A declaration is a type, constructor, method or field with the markers found on it.
It belongs to an owner: the class itself, or its name.  Its unit key is that of the
owner, so everything declared in one class is one unit by nature.

A handler sees a declaration through a `View`, which is committed once it is bound
to the injector of the owner.
-/
import Marking.TypeRegistry

set_option autoImplicit false

namespace Marking

/-- A marked element. -/
structure Declaration where
  kind : ElementKind
  owner : Value
  /-- The name of the member; types have none. -/
  name : String := ""
  markers : List Marker := []

namespace Declaration

def nameOf (owner : Value) : Except Fault String :=
  match owner with
  | .str s => .ok s
  | v => v.qualifiedName

/-- A declaration; there is none without an owner, nor one of a member without a
name. -/
def make (kind : ElementKind) (owner : Value) (name : String) (markers : List Marker) :
    Except Fault Declaration :=
  match owner with
  | .null =>
    .error (.structural ⟨.malformed, "declaration has no owning type",
      if name.isEmpty then "<anonymous>" else name⟩)
  | owner =>
    if kind != .type && name.isEmpty then
      (nameOf owner).bind fun subject =>
        .error (.structural ⟨.malformed, kind.word ++ " declaration has no member name", subject⟩)
    else .ok ⟨kind, owner, name, markers⟩

def ownerName (d : Declaration) : Except Fault String := nameOf d.owner

def ownerKey (d : Declaration) : Except Fault UnitKey := d.ownerName.map fun n => ⟨n, .type⟩

def qualifiedName (d : Declaration) : Except Fault String :=
  if d.kind = .type then d.ownerName else d.ownerName.map fun n => n ++ "." ++ d.name

/-- The module of the owner, for a class that has one. -/
def package (d : Declaration) : Except Fault (Option String) :=
  match d.owner with
  | .str s => .ok (some (Text.parentName s))
  | v =>
    match v.module? with
    | some m => .ok m
    | none => .error (.missingAttribute v.typeName "__module__")

/-- The declaration, or the class that owns it, is for tests only. -/
def isTestOnly (d : Declaration) : Except Fault Bool :=
  if d.markers.any fun m => m.isA .testOnly then .ok true
  else d.owner.attachedMarkers.map fun ms => ms.any fun m => m.isA .testOnly

def marker? (d : Declaration) (t : MarkerType) : Option Marker :=
  d.markers.find? fun m => m.isA t

def hasMarker (d : Declaration) (t : MarkerType) : Bool := (d.marker? t).isSome

/-- The kind and the full name of the element. -/
def text (d : Declaration) : Except Fault String :=
  d.qualifiedName.map fun n => d.kind.word ++ " " ++ n

/-- Equality of declarations part by part. -/
def eq (a b : Declaration) : Bool :=
  a.kind == b.kind && a.owner.eq b.owner && a.name == b.name &&
    Value.eq (.tuple (a.markers.map .marker)) (.tuple (b.markers.map .marker))

end Declaration

/-- What a handler sees of a declaration. -/
structure View where
  declaration : Declaration
  marker : Marker
  /-- The injector of the owner, once there is one. -/
  injector : Option TypeRegistry.Handle := none

namespace View

/-- The view is bound to an injector. -/
def isCommitted (v : View) : Bool := v.injector.isSome

def commit (v : View) (h : TypeRegistry.Handle) : View := { v with injector := some h }

end View

end Marking
