/-
# Marking.Scope -- package scopes

A scope is a list of packages.  A module lies in it when it is one of them or below
one of them, component by component; the empty scope holds every module.
-/
import Marking.Declaration

set_option autoImplicit false

namespace Marking

/-- The module is the package or lies below it. -/
def isWithin (module package : String) : Bool :=
  module == package || Text.startsWith (package ++ ".") module

def inScope (module : String) (packages : List String) : Bool :=
  packages.isEmpty || packages.any (isWithin module)

theorem inScope_eq_true {m : String} {packages : List String} :
    inScope m packages = true ↔ packages = [] ∨ ∃ p ∈ packages, isWithin m p := by
  rw [inScope, Bool.or_eq_true, List.isEmpty_iff, List.any_eq_true]

/-- The declaration lies in the scope.  A class without a module is in the empty
scope only, and to ask about another one is a fault. -/
def Declaration.isInScope (d : Declaration) (packages : List String) : Except Fault Bool :=
  d.package.bind fun module =>
    match module with
    | some m => .ok (inScope m packages)
    | none =>
      if packages.isEmpty then .ok true else .error (.missingAttribute "NoneType" "startswith")

/-- The declarations of one kind that carry a marker of the type and lie in the
scope. -/
def Declaration.select (kind : ElementKind) (t : MarkerType) (packages : List String) :
    List Declaration → Except Fault (List Declaration)
  | [] => .ok []
  | d :: ds =>
    if d.kind = kind && d.hasMarker t then
      match d.isInScope packages with
      | .error f => .error f
      | .ok true => (select kind t packages ds).map (d :: ·)
      | .ok false => select kind t packages ds
    else select kind t packages ds

end Marking
