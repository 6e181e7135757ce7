/-
# Marking.Proofs.Engine.Phases -- first all checks, then all work

`Run.Phases` says how a run goes about calling handlers.  It asks before it lets work: the
checks come first, one for every delegate, marker type by marker type in the order of the rules,
and a check that fails is the end.  Rules that form a ring end the run before the first call.

The account is given for the traced run, stage by stage (`Run.Traces`), and carried over to the
run itself, which finds delegates that differ in nothing but their handlers.
-/
import Marking.Proofs.Engine.Contacts
import Marking.Proofs.Engine.Running

set_option autoImplicit false

namespace Marking

open Registry (Coherent markersOf rulesOf fromScratch)

variable {σ : Type}

namespace Registry

variable {regs : List (Registration σ)} {r : Registry σ}

/-- Handlers play no part in the order. -/
theorem fromScratch_traced (regs : List (Registration σ)) :
    fromScratch (regs.map Registration.traced) = fromScratch regs := by
  rw [fromScratch, fromScratch, markersOf, markersOf, rulesOf, rulesOf, List.map_map, List.map_map]
  rfl

/-- The traced registry lists traced registrations, in the order from scratch. -/
theorem Coherent.registrations_traced (h : Coherent regs r) {o : Ordering}
    (made : fromScratch regs = .ok o) :
    ∃ rs, r.traced.registrations.1 = .ok rs ∧ markersOf rs = o.order ∧
      ∀ x ∈ rs, (Station.ofRegistration x).IsTraced := by
  obtain ⟨rs, listed, markers, perm⟩ := h.traced.registrations ((fromScratch_traced regs).trans made)
  refine ⟨rs, listed, markers, fun x member => ?_⟩
  obtain ⟨y, -, rfl⟩ := List.mem_map.1 (perm.mem_iff.1 member)
  exact ⟨y.handler, rfl⟩

/-- The order from scratch is refused when the placements form a ring. -/
theorem Coherent.refused (h : Coherent regs r)
    (cyclic : Ordering.Cyclic (markersOf regs) (rulesOf regs)) :
    ∃ names, fromScratch regs = .error (.ruleCycle names) := by
  rw [← h.distinct_eq] at cyclic
  obtain ⟨f, failed⟩ := Ordering.ofRules_fails_iff.2 cyclic
  obtain ⟨names, rfl⟩ := Ordering.ofRules_error failed
  exact ⟨names, failed⟩

end Registry

/-! ## The calls of a list of them -/

theorem filterMap_check? (cs : List Check) (hs : List Handling) :
    (cs.map Contact.check ++ hs.map Contact.handling).filterMap Contact.check? = cs := by
  have checks : (cs.map Contact.check).filterMap Contact.check? = cs := by
    rw [List.filterMap_map]
    exact List.filterMap_some
  have others : (hs.map Contact.handling).filterMap Contact.check? = [] := by
    rw [List.filterMap_map]
    exact List.filterMap_eq_nil_iff.2 fun _ _ => rfl
  rw [List.filterMap_append, checks, others, List.append_nil]

theorem filterMap_handling? (cs : List Check) (hs : List Handling) :
    (cs.map Contact.check ++ hs.map Contact.handling).filterMap Contact.handling? = hs := by
  have checks : (cs.map Contact.check).filterMap Contact.handling? = [] := by
    rw [List.filterMap_map]
    exact List.filterMap_eq_nil_iff.2 fun _ _ => rfl
  have others : (hs.map Contact.handling).filterMap Contact.handling? = hs := by
    rw [List.filterMap_map]
    exact List.filterMap_some
  rw [List.filterMap_append, checks, others, List.nil_append]

/-- Scheduled work waits at a station. -/
theorem Planned.waits {r : Run σ} {plan : Plan σ} {e : Engine σ} (h : Planned r plan e)
    {u : WorkUnit (Delegate σ)} (scheduled : u ∈ plan.schedule.order) {d : Delegate σ}
    (item : d ∈ u.items) : ∃ s ∈ e.stations, d ∈ s.entry.queue := by
  have discovered : d ∈ r.discovered :=
    h.works_perm.mem_iff.1 (List.mem_flatMap.2 ⟨u, scheduled, item⟩)
  rw [Run.discovered, ← h.queues] at discovered
  obtain ⟨q, isQueue, inQueue⟩ := List.mem_flatten.1 discovered
  obtain ⟨s, member, rfl⟩ := List.mem_map.1 isQueue
  exact ⟨s, member, inQueue⟩

namespace Run

variable (r : Run σ)

/-! ## Stages -/

def stages : Engine.Step σ Report :=
  ({ r.engine.cleared with running := true } : Engine σ).processStages r.scanner r.context r.world

def stations : List (Station σ) := r.planned.2.1.stations

variable {r}

/-- A run of an idle engine ends as its stages do, but for notes. -/
theorem outcome_eq (idle : r.engine.running = false) :
    r.outcome = r.stages.1 ∧
      (r.engine.process r.scanner r.context r.world).2.2.own = r.stages.2.2.own := by
  rw [outcome, Engine.process, Engine.exclusively, idle]
  show _ ∧ _ = (Engine.processStages _ _ _ _).2.2.own
  rw [stages]
  dsimp only [Engine.guard]
  generalize Engine.processStages { r.engine.cleared with running := true } r.scanner r.context
    r.world = outcome
  obtain ⟨result, e, w⟩ := outcome
  cases result <;> exact ⟨rfl, rfl⟩

theorem stages_error {f : Fault} {e : Engine σ} {w : World σ}
    (planned : r.planned = (.error f, e, w)) : r.stages = (.error f, e, w) := by
  rw [stages, Engine.processStages, ← Run.planned, planned]

theorem stages_ok {plan : Plan σ} {e : Engine σ} {w : World σ}
    (planned : r.planned = (.ok plan, e, w)) :
    r.stages = Engine.perform (Engine.work r.context) plan e w := by
  rw [stages, Engine.processStages, ← Run.planned, planned]

/-! ## The traced run -/

/-- The calls of a run: checks `cs` and then work `hs`. -/
structure Traces (r : Run σ) (cs : List Check) (hs : List Handling) : Prop where
  trace : r.trace = cs.map .check ++ hs.map .handling
  same : cs.map (fun c => (c.marker, c.view)) =
    r.traced.stations.flatMap fun s => s.entry.queue.map fun d => (s.entry.marker, d.view)
  work : ∀ h ∈ hs, h.IsOf r.traced.stations
  failed : ∀ c ∈ cs, ∀ f, c.Fails f → hs = [] ∧ StoppedByCheck r.outcome

/-- **Rules that form a ring end a run before the first call.** -/
theorem traces_of_refused {f : Fault} (idle : r.engine.running = false)
    (listed : r.traced.engine.registry.registrations.1 = .error f) :
    r.Traces [] [] ∧ r.outcome = .error f ∧ r.traced.stations = [] := by
  obtain ⟨ended, own⟩ := outcome_eq (r := r.traced) idle
  have planned : ∃ e w, r.traced.planned = (.error f, e, w) ∧ e.stations = [] ∧
      w.own.2 = [] := by
    rw [Run.planned, Engine.planStages, Engine.prepare]
    have registry : ({ r.traced.engine.cleared with running := true } : Engine (Traced σ)).registry =
      r.traced.engine.registry := rfl
    rw [registry]
    generalize r.traced.engine.registry.registrations = outcome at listed ⊢
    obtain ⟨result, registry, notes⟩ := outcome
    cases listed
    dsimp only
    exact ⟨_, _, rfl, rfl, rfl⟩
  obtain ⟨e, w, planned, stations, silent⟩ := planned
  have staged := stages_error planned
  have stations : r.traced.stations = [] := by
    rw [Run.stations, planned]
    exact stations
  refine ⟨⟨?_, ?_, fun _ none => absurd none List.not_mem_nil,
    fun _ none => absurd none List.not_mem_nil⟩, ?_, stations⟩
  · rw [trace, own, staged]
    exact silent
  · rw [stations]
    rfl
  · rw [← outcome_traced, ended, staged]

/-- **Checks come before work**, and a check that fails is the end. -/
theorem traces_of_listed {rs : List (Registry.Registration (Traced σ))}
    (idle : r.engine.running = false)
    (listed : r.traced.engine.registry.registrations.1 = .ok rs)
    (traced : ∀ x ∈ rs, (Station.ofRegistration x).IsTraced) :
    (∃ cs hs, r.Traces cs hs) ∧
      r.traced.stations.map (fun s => s.entry.marker) = markersOf rs := by
  obtain ⟨ended, own⟩ := outcome_eq (r := r.traced) idle
  have asking : ∃ cs, Engine.Asks (rs.map Station.ofRegistration) r.traced.world
      r.traced.planned.1 r.traced.planned.2.1.stations r.traced.planned.2.2 cs :=
    Engine.planStages_asks (e := { r.traced.engine.cleared with running := true }) listed traced
      r.scanner r.context r.traced.world
  obtain ⟨cs, asks⟩ := asking
  have markers : r.traced.stations.map (fun s => s.entry.marker) = markersOf rs := by
    rw [Run.stations]
    refine asks.markers.trans ?_
    rw [List.map_map]
    rfl
  refine ⟨?_, markers⟩
  have trace : r.trace = r.traced.stages.2.2.own.2 := congrArg Prod.snd own
  rw [outcome_traced] at ended
  obtain ⟨⟨result, e, w⟩, planned⟩ : ∃ x, r.traced.planned = x := ⟨_, rfl⟩
  have stations : r.traced.stations = e.stations := by rw [Run.stations, planned]
  rw [planned, ← stations] at asks
  have checked : w.own.2 = cs.map .check := asks.trace
  cases result with
  | error f =>
      rw [stages_error planned] at ended trace
      refine ⟨cs, [], ?_, asks.same, fun _ none => absurd none List.not_mem_nil, fun c member g fails => ?_⟩
      · rw [trace, List.map_nil, List.append_nil]
        exact checked
      · rw [ended]
        exact ⟨rfl, asks.failed c member g fails⟩
  | ok plan =>
      have queued : ∀ u ∈ plan.schedule.order, ∀ d ∈ u.items, ∃ s ∈ e.stations, d ∈ s.entry.queue :=
        fun u scheduled d item => (Run.planned_spec planned).waits scheduled item
      obtain ⟨hs, handled, each⟩ := Engine.perform_handles (stations ▸ asks.traced)
        (stations ▸ asks.own) queued r.context w
      refine ⟨cs, hs, ?_, asks.same, stations ▸ each, fun c member g fails => ?_⟩
      · rw [trace, stages_ok planned, ← checked]
        exact handled
      · exact (asks.failed c member g fails).elim

/-! ## The run itself -/

theorem Traces.checks {cs : List Check} {hs : List Handling} (traces : r.Traces cs hs) :
    r.checks = cs := by
  rw [Run.checks, traces.trace, filterMap_check?]

theorem Traces.handlings {cs : List Check} {hs : List Handling} (traces : r.Traces cs hs) :
    r.handlings = hs := by
  rw [Run.handlings, traces.trace, filterMap_handling?]

theorem stations_traced :
    List.Forall₂ (Station.Alike Untraced) r.traced.stations r.stations :=
  r.planned_traced.state.stations

theorem markers_traced :
    r.traced.stations.map (fun s => s.entry.marker) = r.stations.map fun s => s.entry.marker :=
  map_eq_of_forall₂ stations_traced fun _ _ like => like.entry.marker

/-- What the stations of the traced run show is what those of the run show. -/
theorem views_traced :
    (r.traced.stations.flatMap fun s => s.entry.queue.map fun d => (s.entry.marker, d.view)) =
      r.stations.flatMap fun s => s.entry.queue.map fun d => (s.entry.marker, d.view) := by
  rw [List.flatMap_def, List.flatMap_def]
  congr 1
  refine map_eq_of_forall₂ stations_traced fun s s' station => ?_
  rw [station.entry.marker]
  exact map_eq_of_forall₂ station.entry.queue fun _ _ like => by rw [like.view]

theorem isOf_traced {h : Handling} (isOf : h.IsOf r.traced.stations) : h.IsOf r.stations := by
  obtain ⟨s, member, d, inQueue, k, g, marker, keyed, onRecord, view⟩ := isOf
  obtain ⟨s', member', station⟩ := exists_of_forall₂ stations_traced member
  obtain ⟨d', inQueue', same⟩ := exists_of_forall₂ station.entry.queue inQueue
  refine ⟨s', member', d', inQueue', k, g, marker.trans station.entry.marker, ?_, onRecord, ?_⟩
  · rw [← same.declaration, keyed]
  · rw [← same.view, view]

/-! ## Phases -/

/-- Marker types that are listed against no placement are also told apart by no placement. -/
theorem pairwise_markers {markers order : List MarkerType} {rules : List (MarkerType × List Rule)}
    {ss : List (Station σ)} (isOrder : Ordering.IsOrder markers rules order)
    (listed : ss.map (fun s => s.entry.marker) = order) :
    (ss.flatMap fun s => s.entry.queue.map fun d => (s.entry.marker, d.view)).Pairwise
      fun a b => ¬ Ordering.Places markers rules b.1.serial a.1.serial := by
  rw [List.pairwise_flatMap]
  constructor
  · intro s _
    rw [List.pairwise_map]
    exact List.pairwise_of_forall fun _ _ places => places.2.2.1 rfl
  · have placed := isOrder.placed
    rw [← listed, List.pairwise_map] at placed
    refine placed.imp fun apart a first b second => ?_
    obtain ⟨_, _, rfl⟩ := List.mem_map.1 first
    obtain ⟨_, _, rfl⟩ := List.mem_map.1 second
    exact apart

/-- How a run of registered handlers goes about calling them. -/
structure Phases (r : Run σ) (regs : List (Registry.Registration σ)) : Prop where
  /-- Rules that form a ring end the run before the first call. -/
  cyclic : Ordering.Cyclic (markersOf regs) (rulesOf regs) →
    (∃ names, r.outcome = .error (.ruleCycle names)) ∧ r.trace = []
  /-- All checks come before all work. -/
  split : r.trace = r.checks.map .check ++ r.handlings.map .handling
  /-- The checks are those of the discovered delegates, each made once, station by station. -/
  asked : r.checks.map (fun c => (c.marker, c.view)) =
    r.stations.flatMap fun s => s.entry.queue.map fun d => (s.entry.marker, d.view)
  /-- The stations stand in the order of the rules. -/
  grouped : ∀ o, fromScratch regs = .ok o → r.stations.map (fun s => s.entry.marker) = o.order
  /-- When a rule places one marker type before another, so are their checks. -/
  placed : ∀ (i j : Nat) (c c' : Check), r.checks[i]? = some c → r.checks[j]? = some c' →
    Ordering.Places (markersOf regs) (rulesOf regs) c.marker.serial c'.marker.serial → i < j
  uncommitted : ∀ c ∈ r.checks, c.view.injector = none
  /-- Handlers work with the injector that the context has for the owner. -/
  committed : ∀ h ∈ r.handlings, h.IsOf r.stations
  /-- A check that fails is the end, before any work. -/
  failed : ∀ c ∈ r.checks, ∀ f, c.Fails f →
    (∃ text key cause, r.outcome = .error (.dependencyCheck text (some key) cause)) ∧
      r.handlings = []

/-- What the calls of the traced run say of the run, when the order is refused. -/
theorem Traces.refused {regs : List (Registry.Registration σ)} {names : List String}
    (traces : r.Traces [] []) (refused : fromScratch regs = .error (.ruleCycle names))
    (outcome : r.outcome = .error (.ruleCycle names)) (none : r.traced.stations = []) :
    r.Phases regs := by
  have checks := traces.checks
  have handlings := traces.handlings
  have stations : r.stations = [] := by
    have like := stations_traced (r := r)
    rw [none] at like
    exact List.forall₂_nil_left_iff.1 like
  refine
    { cyclic := fun _ => ⟨⟨names, outcome⟩, traces.trace⟩
      split := by rw [traces.trace, checks, handlings]
      asked := by rw [checks, stations]; rfl
      grouped := fun o made => ?_
      placed := fun i j c c' found => ?_
      uncommitted := fun c member => ?_
      committed := fun h member => ?_
      failed := fun c member => ?_ }
  · rw [refused] at made
    cases made
  · rw [checks] at found
    cases found
  · rw [checks] at member
    cases member
  · rw [handlings] at member
    cases member
  · rw [checks] at member
    cases member

/-- What the calls of the traced run say of the run, when there is an order. -/
theorem Traces.ordered {regs : List (Registry.Registration σ)} {o : Ordering} {cs : List Check}
    {hs : List Handling} (traces : r.Traces cs hs) (registered : Coherent regs r.engine.registry)
    (made : fromScratch regs = .ok o)
    (listed : r.traced.stations.map (fun s => s.entry.marker) = o.order) : r.Phases regs := by
  have checks := traces.checks
  have handlings := traces.handlings
  have asked := traces.same
  rw [← checks, views_traced] at asked
  have listed : r.stations.map (fun s => s.entry.marker) = o.order := markers_traced ▸ listed
  refine
    { asked
      cyclic := fun ring => ?_
      split := by rw [traces.trace, checks, handlings]
      grouped := fun o' made' => ?_
      placed := fun i j c c' here there places => ?_
      uncommitted := fun c member => ?_
      committed := fun h member => isOf_traced (traces.work h (handlings ▸ member))
      failed := fun c member f fails => ?_ }
  · obtain ⟨names, refused⟩ := registered.refused ring
    rw [made] at refused
    cases refused
  · rw [made] at made'
    cases made'
    exact listed
  · -- a check that is not earlier is of a marker type that no rule places first
    have apart := pairwise_markers (registered.isOrder made) listed
    rw [← asked, List.pairwise_map, List.pairwise_iff_getElem] at apart
    obtain ⟨iInside, rfl⟩ := List.getElem?_eq_some_iff.1 here
    obtain ⟨jInside, rfl⟩ := List.getElem?_eq_some_iff.1 there
    rcases Nat.lt_trichotomy i j with earlier | same | later
    · exact earlier
    · subst same
      exact absurd rfl places.2.2.1
    · exact absurd places (apart j i jInside iInside later)
  · have pair : (c.marker, c.view) ∈ r.checks.map fun c => (c.marker, c.view) :=
      List.mem_map_of_mem member
    rw [asked] at pair
    obtain ⟨s, -, inStation⟩ := List.mem_flatMap.1 pair
    obtain ⟨d, -, same⟩ := List.mem_map.1 inStation
    rw [← (Prod.mk.inj same).2]
    rfl
  · obtain ⟨noWork, stopped⟩ := traces.failed c (checks ▸ member) f fails
    exact ⟨stopped.eq_error, handlings.trans noWork⟩

end Run

namespace Sample

def named : MarkerType := .derive .root 3 "Named" (some "sample") (some (.kind .type))

/-- What is made is registered first, but has to come after what is named. -/
def registrations : List (Registry.Registration Bool) :=
  [⟨made, handler true, [⟨.after, named⟩]⟩, ⟨named, handler false, []⟩]

def inOrder : Run Bool where
  engine :=
    { registry := { handlers := Registry.handlersOf registrations, rules := rulesOf registrations } }
  scanner := .fixed (["top", "base"].map fun name =>
    { kind := .type, owner := .str name, markers := [.mk made [], .mk named []] })
  context := {}
  world := { own := false }

theorem registrations_coherent : Coherent registrations inOrder.engine.registry where
  handlers := rfl
  rules := rfl
  distinct := by decide
  remembered _ absurd' := nomatch absurd'

def shown : Contact → String
  | .check c => "check @" ++ c.marker.name
  | .handling h => "handle @" ++ h.marker.name

end Sample

end Marking
