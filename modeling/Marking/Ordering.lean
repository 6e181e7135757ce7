/-
# Marking.Ordering -- rules between markers, and the order they demand

A rule stands on a marker type and places it before or after another one.  An
`Ordering` is made from the registered marker types, in order of registration, and
the rules that stand on them.  Rules that name a marker that is not registered are
noted and have no effect; so has a rule that names its own marker.

The order is the least one that meets every rule.  When no order does, the making
fails and names the markers that are left waiting.
-/
import Marking.Fault
import Marking.Journal
import Marking.Precedence.Least
import Marking.Value

set_option autoImplicit false

namespace Marking

/-- On which side of the named marker the owner of a rule comes. -/
inductive Side where
  | before
  | after
  deriving DecidableEq, Repr

namespace Side

def word : Side → String
  | before => "before"
  | after => "after"

def ofWord? : String → Option Side
  | "before" => some before
  | "after" => some after
  | _ => none

end Side

/-- Places its owner before or after a marker type. -/
structure Rule where
  side : Side
  marker : MarkerType

namespace Rule

def text (r : Rule) : String := r.side.word ++ " @" ++ r.marker.name

end Rule

/-- Registered marker types and the order that their rules demand. -/
structure Ordering where
  /-- Distinct, in order of registration. -/
  markers : List MarkerType
  /-- Pairs of distinct registered markers, the first before the second. -/
  edges : List (MarkerType × MarkerType)
  /-- The markers in the demanded order. -/
  order : List MarkerType

namespace Ordering

def source : String := "core.rules"

def distinct (ms : List MarkerType) : List MarkerType :=
  ms.foldl (fun kept m => if kept.contains m then kept else kept ++ [m]) []

/-- What a rule amounts to. -/
inductive Effect where
  | edge (first second : MarkerType)
  | unregistered
  | idle

def effect (markers : List MarkerType) (owner : MarkerType) (r : Rule) : Effect :=
  if !markers.contains r.marker then .unregistered
  else if r.marker == owner then .idle
  else
    match r.side with
    | .after => .edge r.marker owner
    | .before => .edge owner r.marker

/-- The rules whose owners are registered, each with its owner. -/
def standing (markers : List MarkerType) (rules : List (MarkerType × List Rule)) :
    List (MarkerType × Rule) :=
  (rules.filter fun r => markers.contains r.1).flatMap fun (owner, rs) => rs.map fun r => (owner, r)

def edgesOf (markers : List MarkerType) (rules : List (MarkerType × List Rule)) :
    List (MarkerType × MarkerType) :=
  (standing markers rules).filterMap fun (owner, r) =>
    match effect markers owner r with
    | .edge first second => some (first, second)
    | _ => none

/-- What is noted about rules that name unregistered markers. -/
def notesOf (markers : List MarkerType) (rules : List (MarkerType × List Rule)) : Journal :=
  (standing markers rules).filterMap fun (owner, r) =>
    match effect markers owner r with
    | .unregistered =>
      some (.debug source ("Ignoring rule '" ++ r.text ++ "' on @" ++ owner.name ++
        ": marker is not registered"))
    | _ => none

/-- A marker needs those that the edges place before it. -/
def precedence (markers : List MarkerType) (edges : List (MarkerType × MarkerType)) :
    Precedence :=
  let nodes := markers.toArray
  Precedence.ofRelation markers.length fun i j =>
    match nodes[i]?, nodes[j]? with
    | some m, some n => edges.any fun e => e.1 == n && e.2 == m
    | _, _ => false

def markersAt (markers : List MarkerType) (ps : List Nat) : List MarkerType :=
  let nodes := markers.toArray
  ps.filterMap fun i => nodes[i]?

def ofRules (markerTypes : List MarkerType) (rules : List (MarkerType × List Rule)) :
    Except Fault Ordering × Journal :=
  let markers := distinct markerTypes
  let edges := edgesOf markers rules
  let p := precedence markers edges
  let result : Except Fault Ordering :=
    match p.leastOrder? with
    | some ps => .ok ⟨markers, edges, markersAt markers ps⟩
    | none => .error (.ruleCycle ((markersAt markers p.stuck).map MarkerType.name))
  (result, notesOf markers rules)

def size (o : Ordering) : Nat := o.markers.length

/-- A rule places the first marker directly before the second. -/
def mustPrecede (o : Ordering) (first second : MarkerType) : Bool :=
  o.edges.any fun e => e.1 == first && e.2 == second

/-- Rules by owner: a repeated owner keeps its place and takes the last rules. -/
def gather (rules : List (MarkerType × List Rule)) : List (MarkerType × List Rule) :=
  rules.foldl
    (fun kept r =>
      if kept.any (fun k => k.1 == r.1) then kept.map fun k => if k.1 == r.1 then r else k
      else kept ++ [r])
    []

end Ordering

end Marking
