/-
# Marking.Report -- what a run says about itself

A report tells in which order units were processed, what had to be broken or was
missing, and for every marker how far its entry came: nothing that is left is
dropped.  The views by marker name are dictionaries, so of two entries whose markers
share a name the later one stands.
-/
import Marking.Discovery
import Marking.DependencyGraph

set_option autoImplicit false

namespace Marking

/-- How far the entry of a marker came. -/
structure EntrySummary where
  marker : String
  state : EntryState
  passes : Nat
  succeeded : Nat
  pending : List UnitKey
  errors : List Failure
  deriving Repr

def EntrySummary.ofEntry {σ : Type} (e : Entry (Delegate σ)) : EntrySummary where
  marker := e.name
  state := e.state
  passes := e.passes
  succeeded := e.succeeded
  pending := e.pendingKeys
  errors := e.errors

/-- Entries by name: a repeated name keeps its place and takes the last value. -/
def byName {α : Type} (entries : List (String × α)) : List (String × α) :=
  entries.foldl
    (fun kept e =>
      if kept.any (fun k => k.1 == e.1) then kept.map fun k => if k.1 == e.1 then e else k
      else kept ++ [e])
    []

/-- The outcome of a run. -/
structure Report where
  order : List UnitKey := []
  cycles : List (List UnitKey) := []
  forced : List UnitKey := []
  missing : List (UnitKey × List UnitKey) := []
  structural : List StructuralFault := []
  entries : List EntrySummary := []
  rounds : Nat := 0
  deriving Repr

namespace Report

def unfinished (r : Report) : List EntrySummary :=
  r.entries.filter fun e => !e.pending.isEmpty

/-- The failures of what is left, by marker. -/
def failures (r : Report) : List (String × List Failure) :=
  byName (r.unfinished.map fun e => (e.marker, e.errors))

/-- The keys of what is left, by marker. -/
def pending (r : Report) : List (String × List UnitKey) :=
  byName (r.unfinished.map fun e => (e.marker, e.pending))

def succeeded (r : Report) : Bool := r.unfinished.isEmpty

def incompleteness (r : Report) : Option Fault :=
  if r.succeeded then none else some (.incomplete r.failures r.pending)

def namesOf (ks : List UnitKey) : List Value := ks.map fun k => .str k.name

/-- The names of the missing keys in rising order, by the names of the units. -/
def missingByName (r : Report) : List (String × List String) :=
  byName (r.missing.map fun (k, ks) =>
    (k.name, (ks.map UnitKey.name).mergeSort fun a b => !Text.textLt b a))

def entryValue (e : EntrySummary) : Value :=
  .dict
    [(.str "marker", .str e.marker),
     (.str "state", .str e.state.word),
     (.str "passes", .int e.passes),
     (.str "succeeded", .int e.succeeded),
     (.str "pending", .list (namesOf e.pending)),
     (.str "errors", .list (e.errors.map fun f => .str f.text))]

def toValue (r : Report) : Value :=
  .dict
    [(.str "succeeded", .bool r.succeeded),
     (.str "rounds", .int r.rounds),
     (.str "order", .list (namesOf r.order)),
     (.str "cycles", .list (r.cycles.map fun c => .list (namesOf c))),
     (.str "forced", .list (namesOf r.forced)),
     (.str "missing_dependencies",
        .dict (r.missingByName.map fun (k, ks) => (.str k, .list (ks.map .str)))),
     (.str "structural_errors", .list (r.structural.map fun f => .str f.text)),
     (.str "entries", .list (r.entries.map entryValue))]

end Report

end Marking
