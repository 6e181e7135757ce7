/-
# Marking.Proofs.Engine.Bystanders -- runs do not see bystanders

A run that is not for tests does over a list of declarations what it does over the participants
among them (`Run.bystanders_unseen`): what is for tests only and what lies outside of the scope
tells neither in the report or the fault, nor in the calls of handlers, nor in the types that
become known, nor in what handlers keep for themselves.

It does tell in the journal, where each declaration that is for tests only is noted.  So handlers
must not look at that.
-/
import Marking.Proofs.Discovery.Bystanders
import Marking.Proofs.Engine.Isolation

set_option autoImplicit false

namespace Marking

open Declaration (participants)

variable {σ : Type}

/-- The worlds differ in their journals at most. -/
def SameButJournal (w w' : World σ) : Prop := w.types = w'.types ∧ w.own = w'.own

theorem sameButJournal_likeness : World.Likeness (SameButJournal (σ := σ)) where
  types same := same.1
  learn _ same := ⟨rfl, same.2⟩
  note _ same := same

abbrev Handler.IgnoresJournal (h : Handler σ) : Prop := Handler.Alike SameButJournal h h

namespace Run

def serving (r : Run σ) (decls : List Declaration) : Run σ := { r with scanner := .fixed decls }

/-- The runs have the same outcome, make the same calls of handlers, and leave worlds that differ
in their journals at most. -/
structure EndsAlike (r r' : Run σ) : Prop where
  outcome : r.outcome = r'.outcome
  trace : r.trace = r'.trace
  after : SameButJournal r.after r'.after

variable {decls : List Declaration}

/-- **Runs do not see bystanders.** -/
theorem bystanders_unseen (r : Run σ) (ordinary : r.context.testMode = false)
    (placed : ∀ x ∈ decls, x.IsPlaced)
    (handlers : ∀ x ∈ r.engine.registry.handlers, x.2.IgnoresJournal) :
    (r.serving decls).EndsAlike (r.serving (participants r.context.packages decls)) := by
  have likeness := sameTrace_likeness (sameButJournal_likeness (σ := σ))
  have traced : ∀ x ∈ r.engine.registry.traced.handlers,
      Handler.Alike (SameTrace SameButJournal) x.2 x.2 := by
    intro x member
    obtain ⟨y, registered, rfl⟩ := List.mem_map.1 member
    exact (handlers y registered).traced sameButJournal_likeness y.1
  have twins : Engine.Twins (SameTrace SameButJournal) r.engine.traced r.engine.traced :=
    ⟨.itself likeness _ traced, rfl, rfl⟩
  have inStep : Discovery.InStep (Discovery.Reduced r.context.packages decls)
      (SameTrace (SameButJournal (σ := σ))) :=
    Discovery.inStep_bystanders likeness (fun _ same => same) placed
  have start : Discovery.Reduced r.context.packages decls
      { scanner := .fixed decls, context := r.context }
      { scanner := .fixed (participants r.context.packages decls), context := r.context } :=
    ⟨rfl, rfl, ordinary, rfl⟩
  have both := Engine.process_inStep likeness inStep start twins
    (⟨⟨rfl, rfl⟩, rfl⟩ : SameTrace SameButJournal r.traced.world r.traced.world)
  refine ⟨?_, both.2.2, ?_⟩
  · rw [← (r.serving decls).outcome_traced, ← (r.serving _).outcome_traced]
    exact both.1
  · rw [← (r.serving decls).after_traced, ← (r.serving (participants _ _)).after_traced]
    exact both.2.1

end Run

namespace Sample

def probe : Declaration where
  kind := .type
  owner := .classRef (some "app") "Probe" [.mk .testOnly []]
  markers := [.mk made []]

/-- One participant; the other two are bystanders in the scope of `app`. -/
def mixed : List Declaration := [probe, declaration "base", declaration "app.top"]

def within : Run Bool := { run true with context := { packages := ["app"] } }

theorem handler_ignoresJournal (asks : Bool) : (handler asks).IgnoresJournal where
  check ctx v c := by
    intro w w' same
    rw [handler]
    dsimp only
    split <;> exact ⟨rfl, rfl, same⟩
  handle ctx v := by
    intro w w' same
    rw [handler]
    dsimp only
    split
    · exact ⟨rfl, same.1, rfl⟩
    · exact ⟨congrArg Except.ok same.2, same⟩

theorem mixed_placed : ∀ x ∈ mixed, x.IsPlaced := by
  intro x member
  rw [mixed, List.mem_cons, List.mem_cons, List.mem_singleton] at member
  obtain rfl | rfl | rfl := member
  · exact Declaration.isPlaced_class rfl
  · exact Declaration.isPlaced_text rfl
  · exact Declaration.isPlaced_text rfl

theorem bystanders_passed_by : within.context.testMode = false ∧
    participants ["app"] mixed = [declaration "app.top"] ∧
      (within.serving mixed).EndsAlike (within.serving (participants ["app"] mixed)) ∧
        (within.serving mixed).passes (fun report => report.order.map UnitKey.name == ["app.top"] &&
          report.missing.map (fun m => m.2.map UnitKey.name) == [["base"]]) = true :=
  ⟨rfl, rfl,
    within.bystanders_unseen rfl mixed_placed
      (List.forall_mem_singleton.2 (handler_ignoresJournal true)),
    by decide +kernel⟩

end Sample

end Marking
