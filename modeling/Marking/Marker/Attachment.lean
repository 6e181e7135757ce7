/-
# Marking.Marker.Attachment -- making markers and putting them on objects

A marker is made from named attributes; one name is taken.  It can be put on
anything that accepts new members: classes, functions and things of the scanned
code, marker types and markers, element kinds and merge policies.  The markers of a class are its own;
classes below it do not inherit them.

A marker's member is an attribute, but the members that every marker has come
first.
-/
import Marking.Value.Attribute

set_option autoImplicit false

namespace Marking

/-- Attributes by name: a repeated name keeps its place and takes the last value. -/
def Marker.gather (attributes : List (String × Value)) : List (String × Value) :=
  attributes.foldl
    (fun kept a =>
      if kept.any (fun k => k.1 == a.1) then kept.map fun k => if k.1 == a.1 then a else k
      else kept ++ [a])
    []

def Marker.make (t : MarkerType) (attributes : List (String × Value)) : Except Fault Marker :=
  if attributes.any (fun a => a.1 == "self") then .error (.reservedAttribute "self")
  else .ok (.mk t (Marker.gather attributes))

def MarkerType.fullName (t : MarkerType) : String :=
  match t.module with
  | none => t.name
  | some m => if m == "builtins" then t.name else m ++ "." ++ t.name

def Marker.dictionary (m : Marker) : Value := .dict (m.attributes.map fun a => (.str a.1, a.2))

/-- The methods that every marker has. -/
def Marker.methods : List String :=
  ["__init__", "__getattr__", "__call__", "__eq__", "__hash__", "__repr__"]

/-- What is said about a type of markers.  Only the types that are always there say
something. -/
def MarkerType.notes (t : MarkerType) : Value :=
  if t == .root then
    .str ("Base class for declaration markers.\n\n    Subclasses may set ``targets`` to " ++
      "restrict where the marker may\n    appear.  ``None`` means every " ++
      ":class:`ElementKind`.\n\n    Keyword arguments passed to the constructor become " ++
      "attributes of the\n    marker instance.\n    ")
  else if t == .testOnly then
    .str "Excludes a type from processing unless the run is in test mode."
  else .null

/-- The notes on the types of the members of a marker. -/
def Marker.annotations : Value :=
  .dict [(.str "targets", .str "ClassVar[Iterable[Any] | None]")]

/-- A member of a marker that is no method. -/
def Marker.member (m : Marker) (name : String) : Except Fault Value :=
  match name with
  | "attributes" => .ok m.dictionary
  | "__dict__" => .ok (.dict [(.str "attributes", m.dictionary)])
  | "__weakref__" => .ok .null
  | "__doc__" => .ok m.type.notes
  | "__annotations__" => .ok Marker.annotations
  | "targets" => .ok m.type.targets
  | "__class__" => .ok (.markerType m.type)
  | "__module__" => .ok (match m.type.module with | some s => .str s | none => .null)
  | name =>
    if name == "__test__" && m.isA .testOnly then .ok (.bool false)
    else
      match m.attribute? name with
      | some v => .ok v
      | none => .error (.missingMarkerAttribute m.type.name name)

def Marker.memberExpression (m : Marker) (name : String) : Except Fault String :=
  if name == "marker_name" then
    .ok ("<bound method Marker.marker_name of " ++ m.type.expression ++ ">")
  else if Marker.methods.contains name then
    m.expression.map fun shown => "<bound method Marker." ++ name ++ " of " ++ shown ++ ">"
  else (m.member name).bind Value.expression

/-- The markers in the notes of an annotation, which has one note at least. -/
def Value.annotationMarkers (notes : List Value) : Except Fault (List Marker) :=
  if notes.isEmpty then .error .annotationWithoutNotes else .ok (markersAmong notes)

def Value.acceptsMembers : Value → Bool
  | .classRef .. | .function .. | .thing _ | .markerType _ | .marker _ | .kind _ | .policy _ => true
  | _ => false

/-- Why an object accepts no new member of a name. -/
def Value.refusal (v : Value) (member : String) : Fault :=
  match v with
  | .key _ => .foreign .type "super(type, obj): obj must be an instance or subtype of type"
  | .builtin ⟨name, true⟩ =>
    .foreign .type ("cannot set " ++ Text.quoted member ++ " attribute of immutable type " ++
      Text.quoted name)
  | v => .missingAttribute v.typeName member

/-- Gives an object the markers among several values in place of those that it has. -/
def Value.presetMarkers (v : Value) (given : List Value) : Except Fault (List Marker) :=
  if v.acceptsMembers then .ok (markersAmong given) else .error (v.refusal "__markers__")

/-- Puts a marker behind those that an object has. -/
def Marker.attach (m : Marker) (target : Value) (present : List Marker) :
    Except Fault (List Marker) :=
  if target.acceptsMembers then .ok (present ++ [m])
  else .error (.showing m.expression fun marker => .showing target.expression (.cannotAttach marker))

end Marking
