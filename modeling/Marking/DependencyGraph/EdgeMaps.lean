/-
# Marking.DependencyGraph.EdgeMaps -- the edges of a graph by key

Three dictionaries hold what a unit needs, what needs it and what it misses.  They are filled
together in one pass over the units (`enter`): the needs of a unit that some unit provides become
its forward edges, in the order of registration, and its own key is put last among the backward
edges of each of them; the needs that no unit provides are kept apart.
-/
import Marking.DependencyGraph

set_option autoImplicit false

namespace Marking

abbrev KeyLists := List (UnitKey × List UnitKey)

namespace KeyLists

/-- The list under a key; empty under an unknown key. -/
def under (t : KeyLists) (k : UnitKey) : List UnitKey := (t.lookup k).getD []

/-- Changes the list under a key.  An unknown key stays unknown. -/
def adjust (t : KeyLists) (k : UnitKey) (f : List UnitKey → List UnitKey) : KeyLists :=
  t.map fun e => if e.1 = k then (e.1, f e.2) else e

end KeyLists

structure EdgeMaps where
  /-- What a unit needs, of what is provided. -/
  forward : KeyLists
  /-- What needs a unit. -/
  backward : KeyLists
  /-- What a unit needs and no unit provides, for units with such needs. -/
  missing : KeyLists := []
  deriving DecidableEq, Repr

namespace EdgeMaps

variable {α : Type}

def blank (keys : List UnitKey) : EdgeMaps where
  forward := keys.map fun k => (k, [])
  backward := keys.map fun k => (k, [])

/-- The members of a set that are among the keys, in the order of the keys. -/
def sortedAmong (keys set : List UnitKey) : List UnitKey :=
  (UnitKey.distinct (set.filter keys.contains)).mergeSort fun k l =>
    decide (keys.idxOf k ≤ keys.idxOf l)

def enter (keys : List UnitKey) (m : EdgeMaps) (u : WorkUnit α) : EdgeMaps :=
  let known := sortedAmong keys u.needs
  let unknown := u.needs.filter fun k => !keys.contains k
  { forward := m.forward.adjust u.key fun _ => known
    backward := known.foldl (fun t k => t.adjust k (· ++ [u.key])) m.backward
    missing := if unknown.isEmpty then m.missing else m.missing ++ [(u.key, unknown)] }

def ofUnits (us : List (WorkUnit α)) : EdgeMaps :=
  us.foldl (enter (us.map WorkUnit.key)) (blank (us.map WorkUnit.key))

end EdgeMaps

def DependencyGraph.edgeMaps {α : Type} (g : DependencyGraph α) : EdgeMaps :=
  EdgeMaps.ofUnits g.units

end Marking
