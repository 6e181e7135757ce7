/-
# Marking.DependencyGraph -- units and the units they need

The nodes of the graph are units; of several units under one key only the first is
a node.  A need that no node provides is missing and makes no edge.  Positions of
nodes stand for their order of registration, and every ordering of the graph is an
ordering of its `Precedence`.

`bestEffort` never fails: it forces units out of cycles and says which.
`topological` refuses cycles.  `schedule` tries the strict order if it is asked to
and falls back to the best effort.
-/
import Marking.Journal
import Marking.Precedence.Least
import Marking.Precedence.Passes
import Marking.WorkUnit

set_option autoImplicit false

namespace Marking

/-- Units with distinct keys, and which of them need which. -/
structure DependencyGraph (α : Type) where
  units : List (WorkUnit α)
  precedence : Precedence

namespace DependencyGraph

variable {α : Type}

def source : String := "core.graph"

/-- The first unit of every key. -/
def firstUnits (us : List (WorkUnit α)) : List (WorkUnit α) :=
  us.foldl (fun kept u => if kept.any (fun v => v.key = u.key) then kept else kept ++ [u]) []

def ofUnits (us : List (WorkUnit α)) : DependencyGraph α :=
  let units := firstUnits us
  let nodes := units.toArray
  let needed : Nat → Nat → Bool := fun i j =>
    match nodes[i]?, nodes[j]? with
    | some u, some v => u.needs.contains v.key
    | _, _ => false
  ⟨units, Precedence.ofRelation units.length needed⟩

def rebuild (g : DependencyGraph α) : DependencyGraph α := ofUnits g.units

def size (g : DependencyGraph α) : Nat := g.units.length

def keys (g : DependencyGraph α) : List UnitKey := g.units.map WorkUnit.key

def position? (g : DependencyGraph α) (k : UnitKey) : Option Nat :=
  g.units.findIdx? fun u => u.key = k

def contains (g : DependencyGraph α) (k : UnitKey) : Bool := (g.position? k).isSome

def unitsAt (g : DependencyGraph α) (ps : List Nat) : List (WorkUnit α) :=
  let nodes := g.units.toArray
  ps.filterMap fun i => nodes[i]?

def keysAt (g : DependencyGraph α) (ps : List Nat) : List UnitKey :=
  (g.unitsAt ps).map WorkUnit.key

def unit (g : DependencyGraph α) (k : UnitKey) : Except Fault (WorkUnit α) :=
  match g.units.find? fun u => u.key = k with
  | some u => .ok u
  | none => .error (.noSuchUnit k.expression)

/-- The units that the unit under a key needs, in order of registration. -/
def referencedFrom (g : DependencyGraph α) (k : UnitKey) : List (WorkUnit α) :=
  match g.position? k with
  | some i => g.unitsAt (g.precedence.needsOf i)
  | none => []

/-- The units that need the unit under a key, in order of registration. -/
def referencing (g : DependencyGraph α) (k : UnitKey) : List (WorkUnit α) :=
  match g.position? k with
  | some i => g.unitsAt (g.precedence.feedsOf i)
  | none => []

/-- The needs of a unit that no node provides. -/
def missingOf (g : DependencyGraph α) (u : WorkUnit α) : List UnitKey :=
  u.needs.filter fun k => !g.contains k

/-- What is missing, unit by unit, where something is. -/
def missing (g : DependencyGraph α) : List (UnitKey × List UnitKey) :=
  (g.units.map fun u => (u.key, g.missingOf u)).filter fun m => !m.2.isEmpty

def cycles (g : DependencyGraph α) : List (List UnitKey) :=
  g.precedence.cycles.map g.keysAt

/-- An order of all units and the keys that were forced, with a warning for each. -/
structure Effort (α : Type) where
  order : List (WorkUnit α)
  forced : List UnitKey
  notes : Journal

def forcedNote (g : DependencyGraph α) (f : Precedence.Forced) : Record :=
  .warning source ("Dependency cycle: processing " ++
    ", ".intercalate ((g.keysAt [f.position]).map UnitKey.name) ++
    " before its dependencies " ++ ", ".intercalate ((g.keysAt f.unmet).map UnitKey.name))

/-- Every unit once, what it needs before it where cycles allow. -/
def bestEffort (g : DependencyGraph α) : Effort α :=
  let passes := g.precedence.passes
  { order := g.unitsAt passes.order
    forced := g.keysAt (passes.forced.map Precedence.Forced.position)
    notes := passes.forced.map g.forcedNote }

/-- Every unit after all it needs; refused when there is a cycle. -/
def topological (g : DependencyGraph α) : Except Fault (List (WorkUnit α)) :=
  match g.precedence.leastOrder? with
  | some ps => .ok (g.unitsAt ps)
  | none => .error (.cyclic g.cycles)

end DependencyGraph

structure Schedule (α : Type) where
  order : List (WorkUnit α) := []
  cycles : List (List UnitKey) := []
  forced : List UnitKey := []
  /-- The order has every unit after all it needs. -/
  strict : Bool := false

namespace Schedule

variable {α : Type}

def keys (s : Schedule α) : List UnitKey := s.order.map WorkUnit.key

def ofEffort (g : DependencyGraph α) : Schedule α × Journal :=
  let e := g.bestEffort
  ({ order := e.order
     cycles := if e.forced.isEmpty then [] else g.cycles
     forced := e.forced
     strict := e.forced.isEmpty }, e.notes)

/-- Orders a graph: strictly, if that is asked for and possible, and with the best
effort otherwise. -/
def ofGraph (strict : Bool) (g : DependencyGraph α) : Schedule α × Journal :=
  if strict then
    match g.topological with
    | .ok order => ({ order, strict := true }, [])
    | .error f =>
      let e := g.bestEffort
      ({ order := e.order, cycles := g.cycles, forced := e.forced },
        .warning DependencyGraph.source (f.message ++ "; falling back to best-effort order") ::
          e.notes)
  else ofEffort g

end Schedule

end Marking
