/-
# Marking.WorkUnit -- a group of work items under one key

A unit holds the items that were found under its key and the set of keys that must
come before it.  The set is a list without repetitions; only its members matter.

`merge` puts the items of two units together and joins their needs, or keeps those
of the first.  A unit is equal to another when their keys are equal, whatever they
hold.
-/
import Marking.Fault

set_option autoImplicit false

namespace Marking

/-- The merged set of two lists without repetitions. -/
def UnitKey.union (ks ls : List UnitKey) : List UnitKey :=
  ks ++ ls.filter (fun k => !ks.contains k)

/-- Work items under one key, with the keys they need. -/
structure WorkUnit (α : Type) where
  key : UnitKey
  items : List α := []
  /-- Without repetitions. -/
  needs : List UnitKey := []
  hard : Bool := false
  deriving Repr

namespace WorkUnit

variable {α : Type}

def ofItems (present : α → Bool) (key : UnitKey) (items : List α) (needs : List UnitKey)
    (hard : Bool) : WorkUnit α :=
  ⟨key, items.filter present, UnitKey.distinct needs, hard⟩

def addItem (u : WorkUnit α) (item : α) : WorkUnit α :=
  { u with items := u.items ++ [item] }

/-- The items of both units, the first ones first.  The needs are joined, or those
of the first unit are kept. -/
def join (union : Bool) (u v : WorkUnit α) : WorkUnit α where
  key := u.key
  items := u.items ++ v.items
  needs := if union then UnitKey.union u.needs v.needs else u.needs
  hard := u.hard || v.hard

/-- Joins two units of one key, without the items that are not present. -/
def merge (present : α → Bool) (union : Bool) (u v : WorkUnit α) : Except Fault (WorkUnit α) :=
  if u.key = v.key then
    let w := join union u v
    .ok { w with items := w.items.filter present }
  else .error (.keyMismatch v.key u.key)

/-- The unit in one line: its key, its needs and the number of its items. -/
def summary (u : WorkUnit α) : String :=
  "Unit(" ++ u.key.name ++ " => [" ++ UnitKey.listing u.needs ++ "], items=" ++
    toString u.items.length ++ ")"

end WorkUnit

end Marking
