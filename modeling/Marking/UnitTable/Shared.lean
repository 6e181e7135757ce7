/-
# Marking.UnitTable.Shared -- units that the table and others hold together

A caller that keeps a unit after adding it holds the very unit that the table
stores: an item added to it later shows in the table.  Under `firstWins` the stored
unit itself takes the items of later ones; under `union` a merge makes a new unit,
and the one that the caller holds is in the table no more.

A `Shelf` keeps the units by position.  The table on it is a list of positions, and
`stored` reads the units of the table off the shelf.
-/
import Marking.UnitTable
import Marking.Value.Attribute

set_option autoImplicit false

namespace Marking.UnitTable

/-- Units with their positions, and the positions of those in the table. -/
structure Shelf where
  policy : MergePolicy := .union
  units : Array (WorkUnit Value) := #[]
  table : List Nat := []

namespace Shelf

/-- The value stands for an item. -/
def present (v : Value) : Bool :=
  match v with
  | .null => false
  | _ => true

def unitAt (s : Shelf) (i : Nat) : WorkUnit Value := s.units.getD i ⟨⟨"", .type⟩, [], [], false⟩

/-- Puts a new unit on the shelf; its position is returned. -/
def place (s : Shelf) (u : WorkUnit Value) : Nat × Shelf :=
  (s.units.size, { s with units := s.units.push u })

def create (s : Shelf) (key : UnitKey) (items : List Value) (needs : List UnitKey)
    (hard : Bool) : Nat × Shelf :=
  s.place (WorkUnit.ofItems present key items needs hard)

def addItem (s : Shelf) (i : Nat) (item : Value) : Shelf :=
  { s with units := s.units.modify i fun u => u.addItem item }

def merge (s : Shelf) (i j : Nat) (union : Bool) : Except Fault (Nat × Shelf) :=
  ((s.unitAt i).merge present union (s.unitAt j)).map s.place

def find? (s : Shelf) (k : UnitKey) : Option Nat :=
  s.table.find? fun i => (s.unitAt i).key = k

def stored (s : Shelf) : List (WorkUnit Value) := s.table.map s.unitAt

def keys (s : Shelf) : List UnitKey := s.stored.map WorkUnit.key

/-- Adds the unit at a position to the table; the position of the stored unit is
returned. -/
def add (s : Shelf) (i : Nat) : Nat × Shelf × Journal :=
  let u := s.unitAt i
  match s.find? u.key with
  | none => (i, { s with table := s.table ++ [i] }, [])
  | some j =>
    let old := s.unitAt j
    let new := s.policy.fold present old u
    match s.policy with
    | .firstWins => (j, { s with units := s.units.setIfInBounds j new }, s.policy.note old u)
    | .union =>
      let (k, s) := s.place new
      (k, { s with table := s.table.map fun x => if x = j then k else x }, s.policy.note old u)

/-- The table holds nothing; the units stay on the shelf. -/
def clear (s : Shelf) : Shelf := { s with table := [] }

/-- The unit at a position is the one stored under its key. -/
def isStored (s : Shelf) (i : Nat) : Bool := s.find? (s.unitAt i).key == some i

def sameKey (s : Shelf) (i j : Nat) : Bool := (s.unitAt i).key == (s.unitAt j).key

def summary (s : Shelf) : String := summaryOf s.policy s.table.length

end Shelf

end Marking.UnitTable
