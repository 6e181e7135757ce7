/-
# Marking.Proofs.Scope.Nesting -- scopes by the components of names

Whether a module lies in a scope is read off characters: its name is a package, or goes on behind
a package with a dot.  For all names, empty ones and those with dots at their ends or side by side
included, this is to read names component by component, and the components of a name are what
stands between its dots (`components_eq_iff`).

One scope is nested in another when its packages lie there.  Then, and only then, all that lies in
the one lies in the other (`nests_iff`), so nesting is transitive.  The empty scope holds every
module and no other one does (`exists_outside`); it is nested in itself alone.
-/
import Mathlib.Algebra.Order.BigOperators.Group.List
import Mathlib.Algebra.Order.Ring.Nat
import Marking.Proofs.Codebase.Lineage

set_option autoImplicit false

namespace Marking

open Text

variable {m p : String} {packages inner outer : List String}

/-! ## What stands between the dots -/

/-- Texts without dots, at least one of them, that make the name when dots are put between them. -/
structure IsDotted (name : String) (parts : List String) : Prop where
  some : parts ≠ []
  plain : ∀ part ∈ parts, '.' ∉ part.toList
  joined : ".".intercalate parts = name

/-- A name can be taken apart at its dots in one way. -/
theorem components_eq_iff {parts : List String} : components m = parts ↔ IsDotted m parts := by
  constructor
  · rintro rfl
    exact ⟨components_ne_nil m, fun _ => plain_of_mem_components, intercalate_components m⟩
  · rintro ⟨some, plain, rfl⟩
    exact components_intercalate some plain

/-! ## Modules in a scope -/

theorem inScope_iff : inScope m packages = true ↔
    packages = [] ∨ ∃ p ∈ packages, components p <+: components m := by
  simp only [inScope_eq_true, isWithin_iff]

/-- What is put behind a package leads to a module of it only behind a dot. -/
theorem inScope_append_iff {rest : String} :
    inScope (p ++ rest) [p] = true ↔ rest = "" ∨ ∃ tail, rest = "." ++ tail := by
  have within : inScope (p ++ rest) [p] = true ↔
      p ++ rest = p ∨ p.toList ++ ['.'] <+: p.toList ++ rest.toList := by
    simp only [inScope, isWithin, startsWith, List.isEmpty_cons, List.any_cons, List.any_nil,
      Bool.false_or, Bool.or_false, Bool.or_eq_true, beq_iff_eq, List.isPrefixOf_iff_prefix,
      String.toList_append]
    rfl
  rw [within, List.prefix_append_right_inj]
  refine or_congr ?_ ?_
  · simp
  · constructor
    · rintro ⟨tail, whole⟩
      exact ⟨String.ofList tail, by simp [← String.toList_inj, ← whole]⟩
    · rintro ⟨tail, rfl⟩
      exact ⟨tail.toList, by simp⟩

theorem inScope_of_mem (member : p ∈ packages) : inScope p packages = true :=
  inScope_iff.2 (.inr ⟨p, member, List.prefix_rfl⟩)

/-- A name without dots that is no package lies in no package. -/
theorem inScope_plain (plain : '.' ∉ m.toList) (some : packages ≠ []) :
    inScope m packages = true ↔ m ∈ packages := by
  refine ⟨fun inside => ?_, inScope_of_mem⟩
  obtain ⟨p, member, first⟩ := (inScope_iff.1 inside).resolve_left some
  have short : (components m).length ≤ (components p).length := by
    rw [components_of_plain plain]
    exact List.length_pos_iff.2 (components_ne_nil p)
  exact components_injective (first.eq_of_length_le short) ▸ member

/-- A scope that is not empty does not hold everything. -/
theorem exists_outside (some : packages ≠ []) : ∃ m, inScope m packages = false := by
  -- A name without dots that is longer than all packages is none of them.
  let longer := (packages.map String.length).sum + 1
  refine ⟨String.ofList (List.replicate longer 'a'), ?_⟩
  have plain : '.' ∉ (String.ofList (List.replicate longer 'a')).toList := by
    rw [String.toList_ofList]
    exact fun member => absurd (List.eq_of_mem_replicate member) (by decide)
  rw [← Bool.not_eq_true, inScope_plain plain some]
  intro member
  have short := List.le_sum_of_mem (List.mem_map_of_mem (f := String.length) member)
  simp at short
  omega

/-! ## Scopes in a scope -/

/-- The packages of the inner scope lie in the outer one, and the inner scope holds everything only
if the outer one does. -/
structure Nests (outer inner : List String) : Prop where
  empty : inner = [] → outer = []
  inside : ∀ p ∈ inner, inScope p outer = true

/-- All that lies in a nested scope lies in the outer one, and this makes it nested. -/
theorem nests_iff : Nests outer inner ↔ ∀ m, inScope m inner = true → inScope m outer = true := by
  constructor
  · intro nests m inInner
    rcases inScope_iff.1 inInner with none | ⟨p, member, low⟩
    · exact inScope_iff.2 (.inl (nests.empty none))
    · rcases inScope_iff.1 (nests.inside p member) with none | ⟨q, isOuter, high⟩
      · exact inScope_iff.2 (.inl none)
      · exact inScope_iff.2 (.inr ⟨q, isOuter, high.trans low⟩)
  · intro holds
    refine ⟨fun none => ?_, fun p member => holds p (inScope_of_mem member)⟩
    by_contra some
    obtain ⟨m, outside⟩ := exists_outside some
    have inInner : inScope m inner = true := inScope_iff.2 (.inl none)
    rw [holds m inInner] at outside
    cases outside

/-- **Scopes are matched component by component.**  A module lies in a scope that is empty, and in
one with a package whose components, as they stand between dots, come first in the module.  So what
is put behind a package leads to a module of it only behind a dot, and a scope that is nested in a
nested one is nested in the outermost one. -/
theorem scope_by_components (m : String) (packages : List String) :
    (∀ parts, components m = parts ↔ IsDotted m parts) ∧
      (inScope m packages = true ↔
        packages = [] ∨ ∃ p ∈ packages, components p <+: components m) ∧
      (∀ rest, inScope (m ++ rest) [m] = true ↔ rest = "" ∨ ∃ tail, rest = "." ++ tail) ∧
      (∀ outer, Nests outer packages ↔ ∀ n, inScope n packages = true → inScope n outer = true) ∧
      ∀ outer inner, Nests outer packages → Nests packages inner → Nests outer inner := by
  refine ⟨fun _ => components_eq_iff, inScope_iff, fun _ => inScope_append_iff, fun _ => nests_iff, ?_⟩
  intro outer inner high low
  rw [nests_iff] at high low ⊢
  exact fun n inside => high n (low n inside)

example : inScope "application" ["app"] = false := by decide +kernel

end Marking
