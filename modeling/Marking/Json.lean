/-
# Marking.Json -- documents of objects, lists and plain data

Numbers with a point or an exponent are doubles, all others are whole numbers of any
size.  Objects keep their entries in order.
-/
import Marking.Value.Equality

set_option autoImplicit false

namespace Marking

inductive Json where
  | null
  | bool (b : Bool)
  | int (n : Int)
  | float (x : Float)
  | str (s : String)
  | list (items : List Json)
  | object (entries : List (String × Json))

namespace Json

instance : Inhabited Json := ⟨.null⟩

def field? (j : Json) (name : String) : Option Json :=
  match j with
  | object entries => entries.lookup name
  | _ => none

/-- The value of an entry; null when there is none. -/
def field (j : Json) (name : String) : Json := (j.field? name).getD .null

/-- The value of an entry, unless it is null. -/
def given? (j : Json) (name : String) : Option Json :=
  match j.field? name with
  | none | some .null => none
  | some v => some v

/-- The items of a list; none of anything else. -/
def items : Json → List Json
  | list js => js
  | _ => []

def text? : Json → Option String
  | str s => some s
  | _ => none

/-- The text of a text; empty for anything else. -/
def text (j : Json) : String := j.text?.getD ""

def truth? : Json → Option Bool
  | bool b => some b
  | _ => none

/-- The number of a whole number that is not negative. -/
def natural : Json → Nat
  | int n => n.toNat
  | _ => 0

def texts (j : Json) : List String := j.items.filterMap text?

def ofTexts (ss : List String) : Json := list (ss.map str)

def ofNat (n : Nat) : Json := int n

mutual

def value : Json → Value
  | null => .null
  | bool b => .bool b
  | int n => .int n
  | float x => .float x
  | str s => .str s
  | list js => .list (values js)
  | object entries => .dict (entryValues entries)

def values : List Json → List Value
  | [] => []
  | j :: js => value j :: values js

def entryValues : List (String × Json) → List (Value × Value)
  | [] => []
  | e :: es => entryValue e :: entryValues es

def entryValue : String × Json → Value × Value
  | (k, j) => (.str k, value j)

end

/-- The text of a value in a document; empty where the value cannot be written. -/
def plainText (v : Value) : String := v.text.toOption.getD ""

mutual

/-- A value of plain data as a document; other values by their texts. -/
def ofValue : Value → Json
  | .null => null
  | .bool b => bool b
  | .int n => int n
  | .float x => float x
  | .str s => str s
  | .list vs => list (ofValues vs)
  | .tuple vs => list (ofValues vs)
  | .dict entries => object (ofEntries entries)
  | v => str (plainText v)

def ofValues : List Value → List Json
  | [] => []
  | v :: vs => ofValue v :: ofValues vs

def ofEntries : List (Value × Value) → List (String × Json)
  | [] => []
  | e :: es => ofEntry e :: ofEntries es

def ofEntry : Value × Value → String × Json
  | (k, v) => (plainText k, ofValue v)

end

end Json

end Marking
