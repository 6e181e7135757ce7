/-
# Marking.Value -- the values that markers and handlers carry

A marker carries named attributes of any value; a handler may name its
dependencies by classes, functions, texts or keys.  `Value` is that open world:
plain data, keys, kinds and merge policies, the classes, functions and other objects of the
scanned code, marker types and marker instances.

A marker type is known by its serial number, so two types may share a name.  It
has a module, the serial numbers of the types it derives from (itself first), and
its declared targets, which may be any value because nothing checks them before
they are used.
-/
import Marking.Fault
import Marking.MergePolicy

set_option autoImplicit false

namespace Marking

/-- A point in the calendar, with the time of day and the shift from universal
time where they are given. -/
structure Moment where
  year : Nat
  month : Nat
  day : Nat
  /-- Hour, minute, second and microsecond. -/
  time : Option (Nat × Nat × Nat × Nat) := none
  /-- Minutes east of universal time. -/
  offset : Option Int := none
  deriving DecidableEq, Repr, Inhabited

/-- An object that is neither a class nor a function. -/
structure Thing where
  /-- Two things are the same when their serial numbers are. -/
  serial : Nat
  module : Option String
  qualname : Option String
  name : Option String
  callable : Bool
  /-- What the thing raises when it is asked for its expression, if it refuses to show itself. -/
  unshown : Option (ForeignError × String) := none
  deriving DecidableEq, Repr, Inhabited

/-- A name that is always in scope: a class or a function without a module of its
own. -/
structure Builtin where
  name : String
  isClass : Bool
  deriving DecidableEq, Repr, Inhabited

mutual

inductive Value where
  | null
  | bool (b : Bool)
  | int (n : Int)
  | float (x : Float)
  | str (s : String)
  | bytes (bs : List UInt8)
  | moment (m : Moment)
  | list (items : List Value)
  | tuple (items : List Value)
  | set (items : List Value)
  | dict (entries : List (Value × Value))
  | key (k : UnitKey)
  | kind (k : ElementKind)
  | policy (p : MergePolicy)
  /-- A class of the scanned code, with the markers attached to it. -/
  | classRef (module : Option String) (qualname : String) (markers : List Marker)
  | function (module : Option String) (qualname : String)
  | builtin (b : Builtin)
  | thing (t : Thing)
  | markerType (t : MarkerType)
  | marker (m : Marker)
  /-- A list or a dictionary, met again inside itself. -/
  | enclosing (isDict : Bool)

inductive MarkerType where
  | mk (serial : Nat) (name : String) (module : Option String) (lineage : List Nat)
      (targets : Value)

/-- A marker as it stands on a declaration. -/
inductive Marker where
  | mk (type : MarkerType) (attributes : List (String × Value))

end

instance : Inhabited Value := ⟨.null⟩

namespace MarkerType

/-- Two marker types are the same when their serial numbers are. -/
def serial : MarkerType → Nat
  | mk serial _ _ _ _ => serial

def name : MarkerType → String
  | mk _ name _ _ _ => name

def module : MarkerType → Option String
  | mk _ _ module _ _ => module

/-- The serial numbers of the type itself and of all types above it. -/
def lineage : MarkerType → List Nat
  | mk _ _ _ lineage _ => lineage

/-- The declared targets; null when any element may carry the marker. -/
def targets : MarkerType → Value
  | mk _ _ _ _ targets => targets

/-- The type above all marker types. -/
def root : MarkerType :=
  .mk 0 "Marker" (some "markgen.core.markers") [0] .null

/-- The type of markers that keep a declaration out of ordinary runs. -/
def testOnly : MarkerType :=
  .mk 1 "TestOnly" (some "markgen.core.markers") [1, 0] (.tuple [.kind .type])

/-- A new type below `base`; the targets are those of `base` unless given. -/
def derive (base : MarkerType) (serial : Nat) (name : String) (module : Option String)
    (targets : Option Value) : MarkerType :=
  .mk serial name module (serial :: base.lineage) (targets.getD base.targets)

instance : BEq MarkerType := ⟨fun a b => a.serial == b.serial⟩

/-- `a` is `b` or lies below it. -/
def isBelow (a b : MarkerType) : Bool := a.lineage.contains b.serial

instance : Inhabited MarkerType := ⟨root⟩

end MarkerType

namespace Marker

def type : Marker → MarkerType
  | mk type _ => type

def attributes : Marker → List (String × Value)
  | mk _ attributes => attributes

def attribute? (m : Marker) (name : String) : Option Value :=
  m.attributes.lookup name

def isA (m : Marker) (t : MarkerType) : Bool := m.type.isBelow t

instance : Inhabited Marker := ⟨.mk .root []⟩

end Marker

end Marking
