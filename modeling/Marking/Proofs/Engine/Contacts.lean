/-
# Marking.Proofs.Engine.Contacts -- which calls the stages of a run make

Planning makes checks and nothing else: the stations ask in turn, each once for every delegate
that it enlists, until a check fails (`planStages_asks`).  Doing the planned work lets handlers
work and does nothing else; each of them is shown the declaration of a delegate with the injector
that is on record for its owner (`perform_handles`).
-/
import Marking.Proofs.Discovery.Asking
import Marking.Proofs.Engine.Planning
import Marking.Proofs.TypeRegistry.Injectors

set_option autoImplicit false

namespace Marking

variable {σ : Type}

/-! ## Checks -/

namespace Engine

/-- What discovery at the stations in turn leaves of them, and the checks that it adds to the
trace. -/
structure Asks {α : Type} (before : List (Station (Traced σ))) (w : World (Traced σ))
    (result : Except Fault α) (after : List (Station (Traced σ))) (next : World (Traced σ))
    (cs : List Check) : Prop where
  markers : after.map (fun s => s.entry.marker) = before.map fun s => s.entry.marker
  traced : ∀ s ∈ after, s.IsTraced
  own : ∀ s ∈ after, ∀ d ∈ s.entry.queue, d.handler = s.handler
  trace : next.own.2 = w.own.2 ++ cs.map .check
  /-- Each check is of the delegate in its place, under the marker type of its station. -/
  same : cs.map (fun c => (c.marker, c.view)) =
    after.flatMap fun s => s.entry.queue.map fun d => (s.entry.marker, d.view)
  failed : ∀ c ∈ cs, ∀ f, c.Fails f → StoppedByCheck result

variable {e : Engine (Traced σ)}

/-- Stations without work that are not visited have nothing to check. -/
theorem asks_none {α : Type} {ss : List (Station (Traced σ))} {w w' : World (Traced σ)}
    (blank : ∀ s ∈ ss, s.IsTraced ∧ s.entry.queue = []) (silent : w'.own.2 = w.own.2)
    (result : Except Fault α) : Asks ss w result ss w' [] where
  markers := rfl
  traced s member := (blank s member).1
  own s member d inQueue := by
    rw [(blank s member).2] at inQueue
    cases inQueue
  trace := silent.trans (List.append_nil _).symm
  same := by
    refine (List.flatMap_eq_nil_iff.2 fun s member => ?_).symm
    rw [(blank s member).2]
    rfl
  failed _ member := nomatch member

/-- Discovery at one station, and what comes of the others after it. -/
theorem asks_cons {α β : Type} {s t : Station (Traced σ)} {ss ss' : List (Station (Traced σ))}
    {w mid next : World (Traced σ)} {first : Except Fault α} {result : Except Fault β}
    {q : Discovery} {ds : List (Delegate (Traced σ))} {bs cs : List Check}
    (traced : s.IsTraced) (empty : s.entry.queue = []) (here : Discovery.Asks s w (first, q, t, mid) ds bs)
    (passed : StoppedByCheck first → StoppedByCheck result)
    (rest : Asks ss mid result ss' next cs) :
    Asks (s :: ss) w result (t :: ss') next (bs ++ cs) where
  markers := by
    rw [List.map_cons, List.map_cons, rest.markers]
    exact congrArg (· :: _) here.marker
  traced u member := by
    rcases List.mem_cons.1 member with rfl | later
    · exact here.isTraced traced
    · exact rest.traced u later
  own u member d inQueue := by
    rcases List.mem_cons.1 member with rfl | later
    · have queue : u.entry.queue = s.entry.queue ++ ds := here.queue
      rw [queue, empty, List.nil_append] at inQueue
      exact (here.own d inQueue).trans here.handler.symm
    · exact rest.own u later d inQueue
  trace := by
    have trace : mid.own.2 = w.own.2 ++ bs.map .check := here.trace
    rw [rest.trace, trace, List.map_append, List.append_assoc]
  same := by
    have queue : t.entry.queue = ds := by
      rw [← List.nil_append ds, ← empty]
      exact here.queue
    have marker : t.entry.marker = s.entry.marker := here.marker
    rw [List.map_append, here.same, rest.same, List.flatMap_cons, queue, marker]
  failed c member f fails := by
    rcases List.mem_append.1 member with early | late
    · exact passed (here.failed c early f fails)
    · exact rest.failed c late f fails

/-- **The stations ask in turn.** -/
theorem discoverFrom_asks {q : Discovery} {position : Nat} {ss : List (Station (Traced σ))}
    {w : World (Traced σ)} (remaining : e.stations.drop position = ss)
    (blank : ∀ s ∈ ss, s.IsTraced ∧ s.entry.queue = []) :
    ∃ ss' cs, (discoverFrom e q position ss w).2.2.1.stations = e.stations.take position ++ ss' ∧
      Asks ss w (discoverFrom e q position ss w).1 ss' (discoverFrom e q position ss w).2.2.2 cs := by
  induction ss generalizing e q position w with
  | nil =>
      have whole : e.stations.take position = e.stations :=
        List.take_of_length_le (List.drop_eq_nil_iff.1 remaining)
      refine ⟨[], [], ?_, asks_none blank rfl _⟩
      rw [whole, List.append_nil]
      rfl
  | cons s ss ih =>
      have inside : position < e.stations.length := by
        by_contra outside
        rw [List.drop_of_length_le (Nat.le_of_not_lt outside)] at remaining
        cases remaining
      have tail : e.stations.drop (position + 1) = ss := by
        rw [← List.tail_drop, remaining]
        rfl
      obtain ⟨traced, empty⟩ := blank s List.mem_cons_self
      have others : ∀ t ∈ ss, t.IsTraced ∧ t.entry.queue = [] :=
        fun t member => blank t (List.mem_cons_of_mem s member)
      obtain ⟨ds, bs, here⟩ := Discovery.discover_asks traced q position w
      have placed : ∀ t : Station (Traced σ), (e.stations.set position t).drop (position + 1) = ss :=
        fun t => by rw [List.drop_set_of_lt (Nat.lt_succ_self position), tail]
      rw [discoverFrom]
      generalize q.discover position s w = outcome at here ⊢
      obtain ⟨units, p, t, mid⟩ := outcome
      cases units with
      | error f =>
          refine ⟨t :: ss, bs ++ [], ?_, asks_cons traced empty here id (asks_none others rfl _)⟩
          show e.stations.set position t = e.stations.take position ++ t :: ss
          rw [List.set_eq_take_append_cons_drop, if_pos inside, tail]
      | ok us =>
          dsimp only
          obtain ⟨ss', cs, stations, rest⟩ := ih (e := { e with
            stations := e.stations.set position t, units := (e.units.addAll us).1 }) (q := p)
            (w := mid.note (e.units.addAll us).2) (placed t) others
          refine ⟨t :: ss', bs ++ cs, ?_, asks_cons traced empty here False.elim
            { rest with trace := rest.trace }⟩
          rw [stations]
          show (e.stations.set position t).take (position + 1) ++ ss' = _
          rw [take_set_succ inside, List.append_assoc]
          rfl

/-- **Planning makes checks and nothing else.** -/
theorem planStages_asks {rs : List (Registry.Registration (Traced σ))}
    (listed : e.registry.registrations.1 = .ok rs)
    (traced : ∀ x ∈ rs, (Station.ofRegistration x).IsTraced) (scanner : Scanner) (ctx : Context)
    (w : World (Traced σ)) :
    ∃ cs, Asks (rs.map Station.ofRegistration) w (e.planStages scanner ctx w).1
      (e.planStages scanner ctx w).2.1.stations (e.planStages scanner ctx w).2.2 cs := by
  have blank : ∀ s ∈ rs.map Station.ofRegistration, s.IsTraced ∧ s.entry.queue = [] := by
    intro s member
    obtain ⟨x, isListed, rfl⟩ := List.mem_map.1 member
    exact ⟨traced x isListed, rfl⟩
  rw [planStages, prepare]
  generalize e.registry.registrations = outcome at listed ⊢
  obtain ⟨result, registry, notes⟩ := outcome
  cases listed
  dsimp only
  obtain ⟨ss', cs, stations, asks⟩ := discoverFrom_asks (e := { e with
    registry, stations := rs.map Station.ofRegistration }) (q := { scanner, context := ctx })
    (w := w.note notes) List.drop_zero blank
  generalize discoverFrom _ _ _ _ _ = outcome at stations asks ⊢
  obtain ⟨result, d, e', next⟩ := outcome
  refine ⟨cs, ?_⟩
  have stations : e'.stations = ss' := stations
  subst stations
  cases result with
  | error f => exact { asks with trace := asks.trace, failed := asks.failed }
  | ok _ =>
      exact
        { markers := asks.markers, traced := asks.traced, own := asks.own, trace := asks.trace
          same := asks.same
          failed := fun c member f fails => (asks.failed c member f fails).elim }

end Engine

/-! ## Work -/

/-- The injector behind a handle is the one that the registry keeps under the key. -/
def TypeRegistry.Keeps (r : TypeRegistry) (k : UnitKey) (g : Handle) : Prop :=
  r.handle? k = some g ∧ ∃ i, r.at? g = some i ∧ i.key = k

/-- A handler was shown the declaration of a delegate at one of the stations, under the marker
type of the station, and with the injector that was on record for the owner. -/
def Handling.IsOf (ss : List (Station σ)) (h : Handling) : Prop :=
  ∃ s ∈ ss, ∃ d ∈ s.entry.queue, ∃ k g, h.marker = s.entry.marker ∧
    UnitKey.ofValue d.declaration.owner = .ok k ∧ h.types.Keeps k g ∧ h.view = d.view.commit g

/-- Processing a delegate with a traced handler lets that handler work, unless the owner has no
key. -/
theorem Delegate.process_traced {t : MarkerType} {h : Handler σ} {d : Delegate (Traced σ)}
    (handler : d.handler = h.traced t) (ctx : Context) (w : World (Traced σ)) :
    (d.process ctx w).2.own.2 = w.own.2 ∨
      ∃ c : Handling, (d.process ctx w).2.own.2 = w.own.2 ++ [.handling c] ∧ c.marker = t ∧
        ∃ k g, UnitKey.ofValue d.declaration.owner = .ok k ∧ c.types.Keeps k g ∧
          c.view = d.view.commit g := by
  have silent := w.addType_own d.declaration.owner
  rw [process]
  generalize w.addType d.declaration.owner = outcome at silent ⊢
  obtain ⟨added, known⟩ := outcome
  cases added with
  | error f => exact .inl (congrArg Prod.snd silent)
  | ok _ =>
      have silent' := known.getInjector_own d.declaration.owner
      dsimp only
      rw [World.getInjector] at silent' ⊢
      cases found : known.types.getInjector d.declaration.owner with
      | error f => exact .inl (congrArg Prod.snd silent)
      | ok made =>
          obtain ⟨g, types, notes⟩ := made
          obtain ⟨k, keyed, onRecord⟩ := TypeRegistry.getInjector_spec found
          have before : known.own.2 = w.own.2 := congrArg Prod.snd silent
          rw [handler, ← before]
          exact .inr ⟨⟨t, d.view.commit g, types, _⟩, rfl, rfl, k, g, keyed,
            ⟨onRecord, TypeRegistry.at?_of_handle? onRecord⟩, rfl⟩

namespace Engine

/-- What lets handlers work adds such calls to the trace. -/
theorem work_keeps {ss : List (Station (Traced σ))} (traced : ∀ s ∈ ss, s.IsTraced)
    (own : ∀ s ∈ ss, ∀ d ∈ s.entry.queue, d.handler = s.handler) (ctx : Context)
    (before : List Contact) :
    Entry.Keeps (fun d => ∃ s ∈ ss, d ∈ s.entry.queue)
      (fun w : World (Traced σ) => ∃ hs : List Handling,
        w.own.2 = before ++ hs.map .handling ∧ ∀ h ∈ hs, h.IsOf ss)
      (work ctx) where
  note _ holds := holds
  queued _ _ _ absurd' := nomatch absurd'
  world := by
    rintro d w ⟨s, member, inQueue⟩ ⟨hs, trace, each⟩
    obtain ⟨h, handler⟩ := traced s member
    have handler : d.handler = h.traced s.entry.marker := (own s member d inQueue).trans handler
    show ∃ hs : List Handling, (d.process ctx w).2.own.2 = _ ∧ _
    rcases d.process_traced handler ctx w with silent | ⟨c, called, marker, k, g, bound⟩
    · exact ⟨hs, silent.trans trace, each⟩
    · refine ⟨hs ++ [c], ?_, fun x isCall => ?_⟩
      · rw [called, trace, List.map_append, List.append_assoc]
        rfl
      · rcases List.mem_append.1 isCall with earlier | last
        · exact each x earlier
        · rw [List.mem_singleton.1 last]
          exact ⟨s, member, d, inQueue, k, g, marker, bound⟩

/-- **Doing the planned work lets handlers work and does nothing else.** -/
theorem perform_handles {e : Engine (Traced σ)} {plan : Plan (Traced σ)} (traced : ∀ s ∈ e.stations, s.IsTraced)
    (own : ∀ s ∈ e.stations, ∀ d ∈ s.entry.queue, d.handler = s.handler)
    (planned : ∀ u ∈ plan.schedule.order, ∀ d ∈ u.items, ∃ s ∈ e.stations, d ∈ s.entry.queue)
    (ctx : Context) (w : World (Traced σ)) :
    ∃ hs : List Handling, (perform (work ctx) plan e w).2.2.own.2 = w.own.2 ++ hs.map .handling ∧
      ∀ h ∈ hs, h.IsOf e.stations :=
  perform_keeps (work_keeps traced own ctx w.own.2) planned
    (fun s member _ inQueue => ⟨s, member, inQueue⟩)
    ⟨[], (List.append_nil _).symm, fun _ absurd' => nomatch absurd'⟩

end Engine

end Marking
