/-
# Marking.UnitTable -- one unit for every key

Several pieces of work may be found under one key.  The table folds them into one
unit per key, in the order in which the keys first came.  Under the policy `union`
a later unit brings items and needs; under `firstWins` it brings items only, and
what it would have needed is noted and dropped.
-/
import Marking.Journal
import Marking.MergePolicy
import Marking.WorkUnit

set_option autoImplicit false

namespace Marking

def UnitTable.source : String := "core.merge"

namespace MergePolicy

variable {α : Type}

def dropped (stored later : WorkUnit α) : List UnitKey :=
  later.needs.filter fun k => !stored.needs.contains k

/-- Folds a later unit into the stored one. -/
def fold (policy : MergePolicy) (present : α → Bool) (stored later : WorkUnit α) : WorkUnit α :=
  match policy with
  | union =>
    let w := WorkUnit.join true stored later
    { w with items := w.items.filter present }
  | firstWins => { stored with items := stored.items ++ later.items }

def note (policy : MergePolicy) (stored later : WorkUnit α) : Journal :=
  match policy with
  | union =>
    [.debug UnitTable.source ("Merged " ++ toString later.items.length ++ " item(s) into unit " ++
      later.key.name)]
  | firstWins =>
    match dropped stored later with
    | [] => []
    | ks => [.debug UnitTable.source ("Unit " ++ later.key.name ++ ": ignoring dependencies " ++
        UnitKey.listing ks ++ " of a later registration")]

end MergePolicy

/-- The units found so far, one for every key. -/
structure UnitTable (α : Type) where
  policy : MergePolicy := .union
  units : List (WorkUnit α) := []
  deriving Repr

namespace UnitTable

variable {α : Type}

def get? (t : UnitTable α) (k : UnitKey) : Option (WorkUnit α) :=
  t.units.find? fun u => u.key = k

def keys (t : UnitTable α) : List UnitKey := t.units.map WorkUnit.key

def contains (t : UnitTable α) (k : UnitKey) : Bool := (t.get? k).isSome

def size (t : UnitTable α) : Nat := t.units.length

def replace (t : UnitTable α) (u : WorkUnit α) : UnitTable α :=
  { t with units := t.units.map fun v => if v.key = u.key then u else v }

/-- Stores a unit under a new key, or folds it into the unit under its key. -/
def add (t : UnitTable α) (u : WorkUnit α) : UnitTable α × Journal :=
  match t.get? u.key with
  | none => ({ t with units := t.units ++ [u] }, [])
  | some stored => (t.replace (t.policy.fold (fun _ => true) stored u), t.policy.note stored u)

def addAll (t : UnitTable α) : List (WorkUnit α) → UnitTable α × Journal
  | [] => (t, [])
  | u :: us =>
    let (t, first) := t.add u
    let (t, rest) := t.addAll us
    (t, first ++ rest)

def summaryOf (policy : MergePolicy) (size : Nat) : String :=
  "UnitTable(policy=" ++ policy.word ++ ", units=" ++ toString size ++ ")"

end UnitTable

end Marking
