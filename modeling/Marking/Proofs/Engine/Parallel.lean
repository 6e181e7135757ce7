/-
# Marking.Proofs.Engine.Parallel -- engines with like handlers run alike

The pieces are put together: like registries set up like stations, stations discover alike, like
units are merged and ordered alike, and like work is done alike.  So of two engines with the same
settings and like handlers each run ends as the run of the other does, with the same plan or
report or the same fault, and in a related world (`process_alike`).

The runs need not be over one scanner.  It is enough that discovery goes hand in hand
(`Discovery.InStep`, `process_inStep`).
-/
import Marking.Proofs.Registry.Likeness

set_option autoImplicit false

namespace Marking

variable {σ τ : Type} {R : World σ → World τ → Prop} {w : World σ} {w' : World τ}

namespace Engine

/-- The engines have like stations, like units and the same settings. -/
structure Alike (R : World σ → World τ → Prop) (e : Engine σ) (e' : Engine τ) : Prop where
  stations : List.Forall₂ (Station.Alike R) e.stations e'.stations
  units : UnitTable.Alike (Delegate.Alike R) e.units e'.units
  settings : e.settings = e'.settings

/-- The engines are set up alike: with like registries, the same settings, and both running or
neither. -/
structure Twins (R : World σ → World τ → Prop) (e : Engine σ) (e' : Engine τ) : Prop where
  registry : Registry.Alike R e.registry e'.registry
  settings : e.settings = e'.settings
  running : e.running = e'.running

variable {e : Engine σ} {e' : Engine τ}

theorem Alike.abreast (h : Alike R e e') : Abreast (Delegate.Alike R) e e' :=
  ⟨h.stations.imp fun _ _ like => like.entry, h.settings⟩

theorem forall₂_set {α β : Type} {A : α → β → Prop} {as : List α} {bs : List β}
    (like : List.Forall₂ A as bs) (i : Nat) {a : α} {b : β} (here : A a b) :
    List.Forall₂ A (as.set i a) (bs.set i b) := by
  induction like generalizing i with
  | nil => exact .nil
  | cons first rest ih =>
      cases i with
      | zero => exact .cons here rest
      | succ i => exact .cons first (ih i)

/-! ## The stages before any work is done -/

theorem prepare_alike (twins : Twins R e e')
    (units : UnitTable.Alike (Delegate.Alike R) e.units e'.units)
    (stations : List.Forall₂ (Station.Alike R) e.stations e'.stations) (worlds : R w w') :
    Matches (· = ·) (Alike R) R (e.prepare w) (e'.prepare w') := by
  have listed := twins.registry.registrations
  have noted := twins.registry.noted worlds
  rw [prepare, prepare]
  generalize e.registry.registrations = x at listed noted ⊢
  generalize e'.registry.registrations = y at listed noted ⊢
  obtain ⟨result, registry, notes⟩ := x
  obtain ⟨result', registry', notes'⟩ := y
  cases listed with
  | error f => exact ⟨rfl, ⟨stations, units, twins.settings⟩, noted⟩
  | ok like =>
      refine ⟨rfl, ⟨?_, units, twins.settings⟩, noted⟩
      refine List.forall₂_map_left_iff.2 (List.forall₂_map_right_iff.2 (like.imp fun a b same => ?_))
      refine ⟨same.handler, ?_⟩
      rw [Station.ofRegistration, Station.ofRegistration, same.marker]
      exact ⟨rfl, .nil, rfl, rfl, rfl, rfl, rfl⟩

theorem discoverFrom_inStep (likeness : World.Likeness R) {Q : Discovery → Discovery → Prop}
    (inStep : Discovery.InStep Q R) {q q' : Discovery} (position : Nat) {ss : List (Station σ)}
    {ss' : List (Station τ)} (states : Q q q') (stations : List.Forall₂ (Station.Alike R) ss ss')
    (engines : Alike R e e') (worlds : R w w') :
    (discoverFrom e q position ss w).1 = (discoverFrom e' q' position ss' w').1 ∧
      Q (discoverFrom e q position ss w).2.1 (discoverFrom e' q' position ss' w').2.1 ∧
      Alike R (discoverFrom e q position ss w).2.2.1 (discoverFrom e' q' position ss' w').2.2.1 ∧
      R (discoverFrom e q position ss w).2.2.2 (discoverFrom e' q' position ss' w').2.2.2 := by
  induction stations generalizing e e' q q' position w w' with
  | nil => exact ⟨rfl, states, engines, worlds⟩
  | @cons s s' ss ss' first _ ih =>
      have found := inStep.discover position states first worlds
      rw [discoverFrom, discoverFrom]
      generalize q.discover position s w = x at found ⊢
      generalize q'.discover position s' w' = y at found ⊢
      obtain ⟨units, p, t, next⟩ := x
      obtain ⟨units', p', t', next'⟩ := y
      obtain ⟨gives, likeP, likeT, likeNext⟩ := found
      have visited : Alike R { e with stations := e.stations.set position t }
          { e' with stations := e'.stations.set position t' } :=
        ⟨forall₂_set engines.stations position likeT, engines.units, engines.settings⟩
      cases gives with
      | error f => exact ⟨rfl, likeP, visited, likeNext⟩
      | ok like =>
          obtain ⟨merged, noted⟩ := engines.units.addAll like
          dsimp only
          rw [noted]
          exact ih (position + 1) likeP ⟨visited.stations, merged, visited.settings⟩
            (likeness.note _ likeNext)

theorem arrange_alike (likeness : World.Likeness R) (structural : List StructuralFault)
    (engines : Alike R e e') (worlds : R w w') :
    Matches (Plan.Alike (Delegate.Alike R)) (Alike R) R (e.arrange structural w)
      (e'.arrange structural w') := by
  have graphs := DependencyGraph.ofUnits_alike engines.units.units
  obtain ⟨schedules, noted⟩ := DependencyGraph.ofGraph_alike e.settings.strictOrder graphs
  have keys := keys_alike schedules.order
  refine ⟨⟨?_, DependencyGraph.missing_alike graphs, rfl⟩,
    ⟨engines.stations, engines.units, engines.settings⟩, ?_⟩
  · show Schedule.Alike _ (Schedule.ofGraph e.settings.strictOrder _).1
      (Schedule.ofGraph e'.settings.strictOrder _).1
    rw [← engines.settings]
    exact schedules
  · rw [arrange, arrange]
    dsimp only
    rw [← engines.settings, noted, schedules.order.length_eq, engines.stations.length_eq,
      Schedule.keys, Schedule.keys, keys]
    exact likeness.note _ worlds

/-- Engines with like handlers plan alike when discovery goes hand in hand. -/
theorem planStages_inStep (likeness : World.Likeness R) {Q : Discovery → Discovery → Prop}
    (inStep : Discovery.InStep Q R) {scanner scanner' : Scanner} {ctx : Context}
    (start : Q { scanner, context := ctx } { scanner := scanner', context := ctx })
    (twins : Twins R e e') (units : UnitTable.Alike (Delegate.Alike R) e.units e'.units)
    (stations : List.Forall₂ (Station.Alike R) e.stations e'.stations) (worlds : R w w') :
    Matches (Gives (Plan.Alike (Delegate.Alike R))) (Alike R) R (e.planStages scanner ctx w)
      (e'.planStages scanner' ctx w') := by
  obtain ⟨result, mid, next, _, mid', next', prepared, prepared', rfl, likeMid, likeNext⟩ :=
    (prepare_alike twins units stations worlds).parts
  rw [planStages, planStages, prepared, prepared']
  cases result with
  | error f => exact ⟨.error f, likeMid, likeNext⟩
  | ok _ =>
      have found := discoverFrom_inStep likeness inStep 0 start likeMid.stations likeMid likeNext
      dsimp only
      generalize discoverFrom mid { scanner, context := ctx } 0 mid.stations next = x at found ⊢
      generalize discoverFrom mid' { scanner := scanner', context := ctx } 0 mid'.stations next' = y
        at found ⊢
      obtain ⟨result, q, last, final⟩ := x
      obtain ⟨result', q', last', final'⟩ := y
      obtain ⟨same, likeQ, likeLast, likeFinal⟩ := found
      cases same
      cases result with
      | error f => exact ⟨.error f, likeLast, likeFinal⟩
      | ok _ =>
          have arranged := arrange_alike likeness q.structural likeLast likeFinal
          dsimp only
          rw [← inStep.structural likeQ]
          exact ⟨.ok arranged.result, arranged.state, arranged.world⟩

/-- **Engines with like handlers plan alike.** -/
theorem planStages_alike (likeness : World.Likeness R) (scanner : Scanner) (ctx : Context)
    (twins : Twins R e e') (units : UnitTable.Alike (Delegate.Alike R) e.units e'.units)
    (stations : List.Forall₂ (Station.Alike R) e.stations e'.stations) (worlds : R w w') :
    Matches (Gives (Plan.Alike (Delegate.Alike R))) (Alike R) R (e.planStages scanner ctx w)
      (e'.planStages scanner ctx w') :=
  planStages_inStep likeness (Discovery.inStep_eq likeness) rfl twins units stations worlds

/-! ## Runs -/

theorem processStages_inStep (likeness : World.Likeness R) {Q : Discovery → Discovery → Prop}
    (inStep : Discovery.InStep Q R) {scanner scanner' : Scanner} {ctx : Context}
    (start : Q { scanner, context := ctx } { scanner := scanner', context := ctx })
    (twins : Twins R e e') (units : UnitTable.Alike (Delegate.Alike R) e.units e'.units)
    (stations : List.Forall₂ (Station.Alike R) e.stations e'.stations) (worlds : R w w') :
    (e.processStages scanner ctx w).1 = (e'.processStages scanner' ctx w').1 ∧
      R (e.processStages scanner ctx w).2.2 (e'.processStages scanner' ctx w').2.2 := by
  obtain ⟨result, mid, next, result', mid', next', planned, planned', gives, likeMid, likeNext⟩ :=
    (planStages_inStep likeness inStep start twins units stations worlds).parts
  rw [processStages, processStages, planned, planned']
  cases gives with
  | error f => exact ⟨rfl, likeNext⟩
  | ok plans =>
      have performed := perform_alike (work_agrees likeness ctx) (fun _ _ like => like.entry) plans
        likeMid.abreast likeNext
      exact ⟨performed.result, performed.world⟩

theorem processStages_alike (likeness : World.Likeness R) (scanner : Scanner) (ctx : Context)
    (twins : Twins R e e') (units : UnitTable.Alike (Delegate.Alike R) e.units e'.units)
    (stations : List.Forall₂ (Station.Alike R) e.stations e'.stations) (worlds : R w w') :
    (e.processStages scanner ctx w).1 = (e'.processStages scanner ctx w').1 ∧
      R (e.processStages scanner ctx w).2.2 (e'.processStages scanner ctx w').2.2 :=
  processStages_inStep likeness (Discovery.inStep_eq likeness) rfl twins units stations worlds

/-- What a run leaves behind in an engine plays no part in the next one. -/
theorem Twins.cleared (twins : Twins R e e') :
    Twins R ({ e.cleared with running := true } : Engine σ) ({ e'.cleared with running := true } : Engine τ) :=
  ⟨twins.registry, twins.settings, rfl⟩

theorem units_cleared (twins : Twins R e e') :
    UnitTable.Alike (Delegate.Alike R) e.cleared.units e'.cleared.units :=
  ⟨congrArg Settings.mergePolicy twins.settings, .nil⟩

/-- Engines with like handlers run alike when discovery goes hand in hand. -/
theorem process_inStep (likeness : World.Likeness R) {Q : Discovery → Discovery → Prop}
    (inStep : Discovery.InStep Q R) {scanner scanner' : Scanner} {ctx : Context}
    (start : Q { scanner, context := ctx } { scanner := scanner', context := ctx })
    (twins : Twins R e e') (worlds : R w w') :
    (e.process scanner ctx w).1 = (e'.process scanner' ctx w').1 ∧
      R (e.process scanner ctx w).2.2 (e'.process scanner' ctx w').2.2 := by
  have staged := processStages_inStep likeness inStep start twins.cleared (units_cleared twins) .nil
    worlds
  rw [process, process, exclusively, exclusively, twins.running]
  cases guard e'.running .process with
  | error f => exact ⟨rfl, worlds⟩
  | ok _ =>
      dsimp only
      generalize processStages { e.cleared with running := true } scanner ctx w = x at staged ⊢
      generalize processStages { e'.cleared with running := true } scanner' ctx w' = y at staged ⊢
      obtain ⟨result, last, next⟩ := x
      obtain ⟨result', last', next'⟩ := y
      obtain ⟨same, likeNext⟩ := staged
      cases same
      cases result with
      | error f => exact ⟨rfl, likeNext⟩
      | ok report => exact ⟨rfl, likeness.note _ likeNext⟩

/-- **Engines with like handlers run alike**: the same report or the same fault comes of it, and
the worlds stay related. -/
theorem process_alike (likeness : World.Likeness R) (scanner : Scanner) (ctx : Context)
    (twins : Twins R e e') (worlds : R w w') :
    (e.process scanner ctx w).1 = (e'.process scanner ctx w').1 ∧
      R (e.process scanner ctx w).2.2 (e'.process scanner ctx w').2.2 :=
  process_inStep likeness (Discovery.inStep_eq likeness) rfl twins worlds

end Engine

end Marking
