/-
# Marking.Value.Equality -- equality, order and truth of values

Numbers are equal by what they stand for, truth values being the numbers zero and
one.  Lists and tuples are equal item by item, dictionaries and sets regardless of
order, markers when their types are the same and their attributes are equal as
dictionaries.  Classes, functions and things are equal only to themselves.

`Value.lt?` orders numbers, texts, bytes, moments, keys, lists and tuples, and refuses all
other pairs.  `Value.unhashable?` finds the mutable part that keeps a value from being a
dictionary key.
-/
import Marking.Fault
import Marking.Number.Double
import Marking.Value.Moment
import Marking.Value.Text

set_option autoImplicit false

namespace Marking

def Value.number? : Value → Option Number.Exact
  | .bool b => some (.ofInt (if b then 1 else 0))
  | .int n => some (.ofInt n)
  | .float x => some (.ofFloat x)
  | _ => none

/-- Equality of values without parts. -/
def Value.leafEq : Value → Value → Bool
  | .null, .null => true
  | .str a, .str b => a == b
  | .bytes a, .bytes b => a == b
  | .moment a, .moment b => a.same b
  | .key a, .key b => a == b
  | .kind a, .kind b => a == b
  | .policy a, .policy b => a == b
  | .classRef m q _, .classRef m' q' _ => m == m' && q == q'
  | .function m q, .function m' q' => m == m' && q == q'
  | .builtin a, .builtin b => a == b
  | .thing a, .thing b => a.serial == b.serial
  | .markerType a, .markerType b => a == b
  | a, b =>
    match a.number?, b.number? with
    | some x, some y => x.eq y
    | _, _ => false

mutual

def Value.eq : Value → Value → Bool
  | .list as, b => match b with | .list bs => Value.listEq as bs | _ => false
  | .tuple as, b => match b with | .tuple bs => Value.listEq as bs | _ => false
  | .set as, b =>
    match b with
    | .set bs => as.length == bs.length && Value.allIn as bs
    | _ => false
  | .dict as, b =>
    match b with
    | .dict bs => as.length == bs.length && Value.entriesIn as bs
    | _ => false
  | .marker a, b => match b with | .marker b => Marker.eq a b | _ => false
  | a, b => Value.leafEq a b

def Value.listEq : List Value → List Value → Bool
  | [], bs => bs.isEmpty
  | a :: as, bs => match bs with | [] => false | b :: bs => Value.eq a b && Value.listEq as bs

def Value.allIn : List Value → List Value → Bool
  | [], _ => true
  | a :: as, bs => bs.any (fun b => Value.eq a b) && Value.allIn as bs

def Value.entriesIn : List (Value × Value) → List (Value × Value) → Bool
  | [], _ => true
  | e :: es, bs => Value.entryIn e bs && Value.entriesIn es bs

def Value.entryIn : Value × Value → List (Value × Value) → Bool
  | (k, v), bs => bs.any (fun b => Value.eq k b.1 && Value.eq v b.2)

/-- Markers are equal when their types are the same and their attributes are equal
in any order. -/
def Marker.eq : Marker → Marker → Bool
  | .mk t as, b =>
    match b with
    | .mk t' bs => t == t' && as.length == bs.length && Value.attributesIn as bs

def Value.attributesIn : List (String × Value) → List (String × Value) → Bool
  | [], _ => true
  | a :: as, bs => Value.attributeIn a bs && Value.attributesIn as bs

def Value.attributeIn : String × Value → List (String × Value) → Bool
  | (name, v), bs => bs.any (fun b => name == b.1 && Value.eq v b.2)

end

/-- Puts an entry into a dictionary: a known key keeps its place and takes the value. -/
def Value.putEntry (entries : List (Value × Value)) (k v : Value) : List (Value × Value) :=
  if entries.any fun e => Value.eq e.1 k then
    entries.map fun e => if Value.eq e.1 k then (e.1, v) else e
  else entries ++ [(k, v)]

/-- What counts as true: everything but null, false, zero and what is empty. -/
def Value.isTrue : Value → Bool
  | .null => false
  | .bool b => b
  | .int n => n != 0
  | .float x => !(Number.Exact.ofFloat x).isZero
  | .str s => !s.isEmpty
  | .bytes bs => !bs.isEmpty
  | .list items => !items.isEmpty
  | .tuple items => !items.isEmpty
  | .set items => !items.isEmpty
  | .dict entries => !entries.isEmpty
  | _ => true

mutual

/-- The type of the first part that keeps the value from being a dictionary key. -/
def Value.unhashable? : Value → Option String
  | .list _ => some "list"
  | .set _ => some "set"
  | .dict _ => some "dict"
  | .enclosing isDict => some (if isDict then "dict" else "list")
  | .tuple items => Value.firstUnhashable? items
  | _ => none

def Value.firstUnhashable? : List Value → Option String
  | [] => none
  | v :: vs =>
    match v.unhashable? with
    | some t => some t
    | none => Value.firstUnhashable? vs

end

abbrev Value.Comparison := Except Fault Bool

def Value.unordered (a b : Value) : Value.Comparison := .error (.unordered a.typeName b.typeName)

/-- Order of bytes at the first place where they differ. -/
def Value.bytesLt : List UInt8 → List UInt8 → Bool
  | [], bs => !bs.isEmpty
  | _ :: _, [] => false
  | a :: as, b :: bs => a < b || (a == b && Value.bytesLt as bs)

/-- Order of moments.  A date has no order with a date that has a time of day, and a time
whose shift is known has none with one whose shift is not. -/
def Value.momentLt? (a b : Moment) : Value.Comparison :=
  if a.time.isSome != b.time.isSome then .error .unorderedDates
  else if a.offset.isSome != b.offset.isSome then .error .unorderedOffsets
  else .ok (a.instant < b.instant)

def Value.leafLt? (a b : Value) : Value.Comparison :=
  match a, b with
  | .str x, .str y => .ok (Text.textLt x y)
  | .bytes x, .bytes y => .ok (Value.bytesLt x y)
  | .moment x, .moment y => Value.momentLt? x y
  | .key x, .key y => .ok (x.lt y)
  | a, b =>
    match a.number?, b.number? with
    | some x, some y => .ok (x.lt y)
    | _, _ => Value.unordered a b

mutual

def Value.lt? : Value → Value → Value.Comparison
  | .list as, b =>
    match b with
    | .list bs => Value.listLt? as bs
    | b => .error (.unordered "list" b.typeName)
  | .tuple as, b =>
    match b with
    | .tuple bs => Value.listLt? as bs
    | b => .error (.unordered "tuple" b.typeName)
  | a, b => Value.leafLt? a b

/-- Order at the first place where the items differ. -/
def Value.listLt? : List Value → List Value → Value.Comparison
  | [], bs => .ok !bs.isEmpty
  | a :: as, bs =>
    match bs with
    | [] => .ok false
    | b :: bs => if Value.eq a b then Value.listLt? as bs else Value.lt? a b

end

/-- How many classes of equal markers there are. -/
def Marker.countDistinct (ms : List Marker) : Nat :=
  (ms.foldl (fun seen m => if seen.any (Marker.eq m) then seen else seen ++ [m]) []).length

end Marking
