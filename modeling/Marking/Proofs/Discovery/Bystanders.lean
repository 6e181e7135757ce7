/-
# Marking.Proofs.Discovery.Bystanders -- declarations that discovery passes by

A bystander is for tests only, or lies outside of the scope.  Where a run is not for tests,
discovery drops both before they can have an effect, each in a place of its own: the scope is
checked when the scanner answers, and what is for tests only is noted and left out when a
declaration is built.  So discovery from a fixed list goes hand in hand with discovery from the
list without its bystanders (`inStep_bystanders`), for every relation of worlds that tells nothing
from the notes of the first.

The scope must have an answer for every declaration.  A class without a module that is for tests
only would end the first discovery and not be there for the second.
-/
import Marking.Proofs.Discovery.Enlisting
import Marking.Proofs.Discovery.Likeness

set_option autoImplicit false

namespace Marking

namespace Declaration

variable {packages : List String} {x : Declaration} {decls : List Declaration}

/-- The declaration is for tests only, or lies outside of the scope. -/
def isBystander (packages : List String) (x : Declaration) : Bool :=
  decide (x.isTestOnly = .ok true) || decide (x.isInScope packages = .ok false)

def participants (packages : List String) (decls : List Declaration) : List Declaration :=
  decls.filter fun x => !x.isBystander packages

def IsPlaced (x : Declaration) : Prop := ∃ m, x.package = .ok (some m)

theorem isPlaced_text {s : String} (owner : x.owner = .str s) : x.IsPlaced :=
  ⟨Text.parentName s, by rw [package, owner]⟩

theorem isPlaced_class {m : String} (module : x.owner.module? = some (some m)) : x.IsPlaced := by
  refine ⟨m, ?_⟩
  unfold package
  split
  · next s owner =>
      rw [owner] at module
      cases module
  · rw [module]

theorem isInScope_placed (placed : x.IsPlaced) : ∃ inside, x.isInScope packages = .ok inside := by
  obtain ⟨m, package⟩ := placed
  exact ⟨inScope m packages, by rw [isInScope, package]; rfl⟩

theorem select_placed {kind : ElementKind} {t : MarkerType} (placed : ∀ x ∈ decls, x.IsPlaced) :
    select kind t packages decls = .ok (decls.filter (Discovery.isSelected kind t packages)) := by
  have answered : ∃ found, select kind t packages decls = .ok found := by
    induction decls with
    | nil => exact ⟨[], rfl⟩
    | cons x decls ih =>
        obtain ⟨found, rest⟩ := ih fun y member => placed y (List.mem_cons_of_mem x member)
        by_cases asked : isAsked kind t x = true
        · have inScope : ∃ inside, x.isInScope packages = .ok inside :=
            isInScope_placed (placed x List.mem_cons_self)
          obtain ⟨inside, answer⟩ := inScope
          rw [select_cons_asked decls asked, answer, rest]
          cases inside <;> exact ⟨_, rfl⟩
        · exact ⟨found, (select_cons_passed decls asked).trans rest⟩
  obtain ⟨found, answer⟩ := answered
  rw [answer, Discovery.select_spec answer]

/-- The scanner's answer without the bystanders is its answer for the list without them. -/
theorem select_participants {kind : ElementKind} {t : MarkerType} (placed : ∀ x ∈ decls, x.IsPlaced) :
    select kind t packages (participants packages decls) =
      .ok (participants packages (decls.filter (Discovery.isSelected kind t packages))) := by
  rw [participants, select_placed fun x member => placed x (List.mem_of_mem_filter member),
    participants, List.filter_filter, List.filter_filter]
  exact congrArg Except.ok (List.filter_congr fun x _ => Bool.and_comm _ _)

end Declaration

namespace Discovery

open Declaration (participants)

variable {σ τ : Type} {R : World σ → World τ → Prop}

/-! ## Building does not look at the scanner -/

/-- The second outcome is the first one with another scanner, and the first one leaves scanner and
context as they were. -/
structure Swapped {α : Type} (other : Scanner) (q : Discovery)
    (x y : Except Fault α × Discovery × Station σ × World σ) : Prop where
  same : y = (x.1, { x.2.1 with scanner := other }, x.2.2)
  scanner : x.2.1.scanner = q.scanner
  context : x.2.1.context = q.context

variable (other : Scanner) (q : Discovery) (position : Nat) (s : Station σ) (w : World σ)

theorem enlist_swapped (x : Declaration) (m : Marker) :
    Swapped other q (q.enlist position s x m w)
      (enlist { q with scanner := other } position s x m w) := by
  rw [enlist, enlist]
  cases x.ownerKey with
  | error f => exact ⟨rfl, rfl, rfl⟩
  | ok key =>
      dsimp only
      generalize w.addType x.owner = added
      obtain ⟨result, known⟩ := added
      cases result with
      | error f => exact ⟨rfl, rfl, rfl⟩
      | ok _ =>
          dsimp only
          generalize Delegate.required _ _ known = asked
          obtain ⟨needs, y, next⟩ := asked
          cases needs <;> exact ⟨rfl, rfl, rfl⟩

theorem build_swapped (x : Declaration) :
    Swapped other q (q.build position s x w) (build { q with scanner := other } position s x w) := by
  rw [build, build]
  cases x.marker? s.entry.marker with
  | none =>
      dsimp only
      cases x.qualifiedName <;> exact ⟨rfl, rfl, rfl⟩
  | some m =>
      dsimp only
      cases x.isTestOnly with
      | error f => exact ⟨rfl, rfl, rfl⟩
      | ok testOnly =>
          dsimp only
          split
          · cases x.text <;> exact ⟨rfl, rfl, rfl⟩
          · have listed := enlist_swapped other q position s w x m
            rw [listed.same]
            exact ⟨rfl, listed.scanner, listed.context⟩

theorem buildAll_swapped (decls : List Declaration) :
    Swapped other q (buildAll position decls q s w)
      (buildAll position decls { q with scanner := other } s w) := by
  induction decls generalizing q s w with
  | nil => exact ⟨rfl, rfl, rfl⟩
  | cons x decls ih =>
      have first := build_swapped other q position s w x
      rw [buildAll, buildAll, first.same]
      generalize q.build position s x w = built at first ⊢
      obtain ⟨unit, p, t, next⟩ := built
      cases unit with
      | error f => exact ⟨rfl, first.scanner, first.context⟩
      | ok unit =>
          have rest := ih p t next
          dsimp only
          rw [rest.same]
          exact ⟨rfl, rest.scanner.trans first.scanner, rest.context.trans first.context⟩

/-! ## Building without bystanders -/

/-- What is for tests only is noted at most. -/
theorem build_testOnly {q : Discovery} {s : Station σ} {x : Declaration}
    (marked : x.hasMarker s.entry.marker = true) (testOnly : x.isTestOnly = .ok true)
    (ordinary : q.context.testMode = false) :
    ∃ j, q.build position s x w = (.ok none, q, s, w.note j) := by
  obtain ⟨m, isMarker⟩ := Option.isSome_iff_exists.1 marked
  have silent : w.note [] = w := by simp [World.note]
  rw [build, isMarker]
  dsimp only
  rw [testOnly, ordinary]
  dsimp only
  rw [if_pos (by rfl)]
  cases x.text with
  | error f => exact ⟨[], by rw [silent]⟩
  | ok text => exact ⟨_, rfl⟩

variable {s : Station σ} {s' : Station τ} {w : World σ} {w' : World τ}

/-- The units of declarations that lie in the scope are those of the participants. -/
theorem buildAll_participants (likeness : World.Likeness R)
    (quiet : ∀ {w w'} (j : Journal), R w w' → R (w.note j) w') (position : Nat) (q : Discovery)
    (ordinary : q.context.testMode = false) {packages : List String} {decls : List Declaration}
    (found : ∀ x ∈ decls, x.hasMarker s.entry.marker = true ∧ isIn packages x = true)
    (stations : Station.Alike R s s') (worlds : R w w') :
    Coincides (UnitsAlike R) R (buildAll position decls q s w)
      (buildAll position (participants packages decls) q s' w') := by
  induction decls generalizing q s s' w w' with
  | nil => exact ⟨.ok .nil, rfl, stations, worlds⟩
  | cons x decls ih =>
      have rest := fun y member => found y (List.mem_cons_of_mem x member)
      obtain ⟨marked, inside⟩ := found x List.mem_cons_self
      by_cases bystander : x.isBystander packages = true
      · have testOnly : x.isTestOnly = .ok true := by
          rw [Declaration.isBystander, Bool.or_eq_true, decide_eq_true_iff, decide_eq_true_iff]
            at bystander
          refine bystander.resolve_right fun outside => ?_
          rw [isIn, outside] at inside
          cases inside
        obtain ⟨j, passed⟩ := build_testOnly position w marked testOnly ordinary
        have dropped : participants packages (x :: decls) = participants packages decls :=
          List.filter_cons_of_neg (by simpa using bystander)
        have others := ih q ordinary rest stations (quiet j worlds)
        rw [dropped, buildAll, passed]
        dsimp only
        generalize buildAll position decls q s (w.note j) = outcome at others ⊢
        obtain ⟨result, rest⟩ := outcome
        have same : result.map (Option.toList none ++ ·) = result := by
          cases result <;> rfl
        rw [same]
        exact others
      · have kept : participants packages (x :: decls) = x :: participants packages decls :=
          List.filter_cons_of_pos (by simpa using bystander)
        rw [kept]
        obtain ⟨unit, unit', p, t, t', next, next', built, built', gives, likeT, likeNext⟩ :=
          (build_alike likeness q position x stations worlds).parts
        rw [buildAll, buildAll, built, built']
        cases gives with
        | error f => exact ⟨.error f, rfl, likeT, likeNext⟩
        | ok first =>
            obtain ⟨ds, -, -, enlists, -⟩ := build_spec built
            have others : ∀ y ∈ decls, y.hasMarker t.entry.marker = true ∧ isIn packages y = true :=
              fun y member => enlists.marker ▸ rest y member
            obtain ⟨more, more', last, u, u', final, final', ran, ran', givesRest, likeU, likeFinal⟩ :=
              (ih p (enlists.context ▸ ordinary) others likeT likeNext).parts
            dsimp only
            rw [ran, ran']
            refine ⟨givesRest.map fun us vs likeRest => ?_, rfl, likeU, likeFinal⟩
            cases first with
            | none => exact likeRest
            | some like => exact .cons like likeRest

/-! ## Discovery without bystanders -/

/-- The states differ in the list that is served, and the second one is without bystanders. -/
structure Reduced (packages : List String) (decls : List Declaration) (q q' : Discovery) : Prop where
  scanner : q.scanner = .fixed decls
  reduced : q' = { q with scanner := .fixed (participants packages decls) }
  ordinary : q.context.testMode = false
  packages : q.context.packages = packages

variable {packages : List String} {decls : List Declaration}

theorem buildKinds_participants (likeness : World.Likeness R)
    (quiet : ∀ {w w'} (j : Journal), R w w' → R (w.note j) w') (placed : ∀ x ∈ decls, x.IsPlaced)
    (position : Nat) (kinds : List ElementKind) {q q' : Discovery}
    (states : Reduced packages decls q q') (stations : Station.Alike R s s') (worlds : R w w') :
    Corresponds (UnitsAlike R) (Reduced packages decls) R (buildKinds position kinds q s w)
      (buildKinds position kinds q' s' w') := by
  induction kinds generalizing q q' s s' w w' with
  | nil => exact ⟨.ok .nil, states, stations, worlds⟩
  | cons kind kinds ih =>
      obtain ⟨scanner, context, structural, made⟩ := q
      obtain ⟨rfl, rfl, ordinary, rfl⟩ := states
      have noted := likeness.note [] worlds
      rw [buildKinds, buildKinds, Scanner.query_fixed, Scanner.query_fixed, ← stations.entry.marker]
      dsimp only
      rw [Declaration.select_placed placed, Declaration.select_participants placed]
      dsimp only
      have found : ∀ x ∈ decls.filter (isSelected kind s.entry.marker context.packages),
          x.hasMarker s.entry.marker = true ∧ isIn context.packages x = true := by
        intro x member
        have selected := List.of_mem_filter member
        rw [isSelected, Bool.and_eq_true, Bool.and_eq_true] at selected
        exact ⟨selected.1.2, selected.2⟩
      obtain ⟨units, units', p, t, t', next, next', built, built', gives, likeT, likeNext⟩ :=
        (buildAll_participants likeness quiet position ⟨.fixed decls, context, structural, made⟩
          ordinary found stations noted).parts
      have swapped := buildAll_swapped (.fixed (participants context.packages decls))
        ⟨.fixed decls, context, structural, made⟩ position s' (w'.note [])
        (participants context.packages
          (decls.filter (isSelected kind s.entry.marker context.packages)))
      rw [built'] at swapped
      have goesOn : Reduced context.packages decls p
          { p with scanner := .fixed (participants context.packages decls) } :=
        ⟨swapped.scanner, rfl, swapped.context ▸ ordinary, congrArg Context.packages swapped.context⟩
      rw [built, swapped.same]
      cases gives with
      | error f => exact ⟨.error f, goesOn, likeT, likeNext⟩
      | ok first =>
          have others := ih goesOn likeT likeNext
          dsimp only
          generalize buildKinds position kinds p t next = x at others ⊢
          generalize buildKinds position kinds
            { p with scanner := .fixed (participants context.packages decls) } t' next' = y
              at others ⊢
          obtain ⟨givesRest, states, likeU, likeFinal⟩ := others
          exact ⟨givesRest.map fun us vs likeRest => List.rel_append first likeRest, states, likeU,
            likeFinal⟩

/-- **Bystanders have no part in discovery.** -/
theorem inStep_bystanders (likeness : World.Likeness R)
    (quiet : ∀ {w w'} (j : Journal), R w w' → R (w.note j) w') (placed : ∀ x ∈ decls, x.IsPlaced) :
    InStep (Reduced packages decls) R := by
  refine inStep_of_kinds likeness (fun states => ?_) (fun f w w' states => ?_)
    fun position kinds => buildKinds_participants likeness quiet placed position kinds
  · rw [states.reduced]
  · refine ⟨states.scanner, ?_, states.ordinary, states.packages⟩
    rw [states.reduced]
    rfl

end Discovery

end Marking
