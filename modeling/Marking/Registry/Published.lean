/-
# Marking.Registry.Published -- handlers that packages publish

A package publishes an object in a group under a name.  Loading a group registers
every object in it that describes a handler for a marker without one.  What cannot
be loaded and what describes no handler is noted and left out.
-/
import Marking.Registry

set_option autoImplicit false

namespace Marking

/-- A published object: what it says about its marker, its handler and its rules. -/
structure Published (σ : Type) where
  marker : Value
  handler : Offer σ
  rules : RuleOffer

/-- An object published under a name in a group; loading it may fail. -/
structure EntryPoint (σ : Type) where
  name : String
  group : String
  content : Except Fault (Published σ)

namespace Registry

variable {σ : Type}

/-- The rules that a member of a published object offers. -/
def rulesOffered (v : Option Value) : RuleOffer :=
  match v with
  | none => .absent
  | some v =>
    if v.isTrue then
      match v.items? with
      | some _ => .rules []
      | none => .unlisted (.notIterable v.typeName)
    else .absent

/-- What any object publishes: markers show their attributes, other objects nothing. -/
def publishedBy (v : Value) : Published σ :=
  let member := fun name =>
    match v with
    | .marker m => m.attribute? name
    | _ => none
  { marker := (member "marker").getD .null
    handler := .other ((member "handler").getD .null)
    rules := rulesOffered (member "rules") }

/-- Registers one published object; true says that it was registered. -/
def loadOne (r : Registry σ) (p : EntryPoint σ) : Except Fault Bool × Registry σ × Journal :=
  match p.content with
  | .error _ =>
    (.ok false, r, [.error source ("Failed to load entry-point " ++ Text.quoted p.name ++
      " from group " ++ Text.quoted p.group ++ "; skipping.")])
  | .ok published =>
    match r.contains published.marker with
    | .error f => (.error f, r, [])
    | .ok true =>
      (.ok false, r, [.debug source ("Entry-point " ++ Text.quoted p.name ++ ": @" ++
        (published.marker.asMarkerType?.map MarkerType.name).getD "" ++
        " already has a handler; skipping.")])
    | .ok false =>
      match r.register published.marker published.handler published.rules with
      | (.ok (), r, notes) => (.ok true, r, notes)
      | (.error f, r, notes) =>
        if f.isA .type then
          (.ok false, r, notes ++ [.warning source ("Entry-point " ++ Text.quoted p.name ++
            " loaded but does not describe a marker handler; skipping.")])
        else (.error f, r, notes)

def loadEach (r : Registry σ) : List (EntryPoint σ) → Except Fault Nat × Registry σ × Journal
  | [] => (.ok 0, r, [])
  | p :: ps =>
    match r.loadOne p with
    | (.error f, r, notes) => (.error f, r, notes)
    | (.ok new, r, notes) =>
      let (count, r, more) := r.loadEach ps
      (count.map fun n => if new then n + 1 else n, r, notes ++ more)

def loadGroup (r : Registry σ) (group : String) (points : List (EntryPoint σ)) :
    Except Fault Nat × Registry σ × Journal :=
  r.loadEach (points.filter fun p => p.group == group)

end Registry

end Marking
