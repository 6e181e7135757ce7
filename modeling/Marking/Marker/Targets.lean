/-
# Marking.Marker.Targets -- the element kinds that a marker type applies to

A marker type may restrict itself to some element kinds.  Its declared targets are
any value, so they are read with care: whatever names no kind is listed as unknown,
and then, or when nothing is named at all, the marker applies to every kind.  A
mistake in the targets does not hide a marker, unless an unknown part cannot even be
written: then the targets cannot be listed, and asking for them fails.
-/
import Marking.Journal
import Marking.Value.Attribute

set_option autoImplicit false

namespace Marking

/-- The kinds that a marker type applies to, and what in its targets is unknown. -/
structure Targets where
  kinds : List ElementKind
  /-- The expressions of the unknown parts. -/
  unknown : List String
  deriving DecidableEq, Repr

namespace Targets

def source : String := "core.markers"

/-- The kinds among the values, at their first places. -/
def kindsAmong (vs : List Value) : List ElementKind :=
  vs.foldl
    (fun kinds v =>
      match ElementKind.ofValue v with
      | .ok k => if k ∈ kinds then kinds else kinds ++ [k]
      | .error _ => kinds)
    []

def isUnknown (v : Value) : Bool :=
  match ElementKind.ofValue v with
  | .ok _ => false
  | .error _ => true

/-- The expressions of the values that name no kind, up to the first that cannot be written. -/
def unknownAmong (vs : List Value) : Except Fault (List String) :=
  (vs.filter isUnknown).mapM Value.expression

/-- The values that declared targets list, if they list any. -/
def listed (declared : Value) : Option (List Value) :=
  match declared with
  | .str _ | .kind _ => some [declared]
  | v => v.items?

/-- The expressions of the unknown parts of declared targets: of what names no kind, or of targets
that list nothing. -/
def unknownIn (declared : Value) : Except Fault (List String) :=
  match listed declared with
  | some vs => unknownAmong vs
  | none => declared.expression.map fun shown => [shown]

def warning (markerName : String) (unknown : List String) : Record :=
  .warning source ("Marker " ++ markerName ++ " declares unrecognised targets " ++
    (if unknown.isEmpty then "(none)" else ", ".intercalate unknown) ++
    "; applying to all element kinds")

/-- The targets when the unknown parts and the kinds are known. -/
def settle (markerName : String) (kinds : List ElementKind) (unknown : List String) :
    Targets × Journal :=
  if unknown.isEmpty && !kinds.isEmpty then (⟨kinds, []⟩, [])
  else (⟨ElementKind.all, if unknown.isEmpty then ["(empty)"] else unknown⟩,
    [warning markerName unknown])

def ofType (t : MarkerType) : Except Fault Targets × Journal :=
  match t.targets with
  | .null => (.ok ⟨ElementKind.all, []⟩, [])
  | declared =>
    match unknownIn declared with
    | .error f => (.error f, [])
    | .ok unknown =>
      let (targets, notes) := settle t.name (kindsAmong ((listed declared).getD [])) unknown
      (.ok targets, notes)

end Targets

def Value.asMarkerType? : Value → Option MarkerType
  | .markerType t => some t
  | _ => none

end Marking
