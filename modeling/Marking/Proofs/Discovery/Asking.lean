/-
# Marking.Proofs.Discovery.Asking -- discovery asks once for every delegate

`Asks s w x ds cs` is said of a stretch of discovery at a station, whatever came of it: it added
the delegates `ds` to the queue and the checks `cs` to the trace, nothing else was called, each of
the checks is of the delegate in its place, under the marker type of the station, and if one of
them failed the stretch ended with it.  Stretches that go on one after the other add up
(`Asks.trans`), since one that did not end has no failed check.

Unlike the accounts of discovery that only tell what a successful one does, this one covers a
discovery that breaks off at any point.
-/
import Marking.Proofs.Engine.Tracing

set_option autoImplicit false

namespace Marking

variable {σ : Type}

/-- The fault is one of a failed check, about a known key. -/
def Fault.IsFailedCheck (f : Fault) : Prop := ∃ text k cause, f = .dependencyCheck text (some k) cause

/-- Nothing came of it, since a check failed. -/
def StoppedByCheck {α : Type} : Except Fault α → Prop
  | .error f => f.IsFailedCheck
  | .ok _ => False

theorem StoppedByCheck.eq_error {α : Type} {x : Except Fault α} (stopped : StoppedByCheck x) :
    ∃ text key cause, x = .error (.dependencyCheck text (some key) cause) := by
  cases x with
  | error f =>
      obtain ⟨text, key, cause, rfl⟩ := stopped
      exact ⟨text, key, cause, rfl⟩
  | ok a => exact stopped.elim

theorem Delegate.isFailedCheck_checkFault (d : Delegate σ) (f : Fault) :
    (d.checkFault f).IsFailedCheck := by
  cases f with
  | dependencyCheck text key cause =>
      cases key with
      | none => exact ⟨text, d.key, cause, rfl⟩
      | some k => exact ⟨text, k, cause, rfl⟩
  | _ => exact ⟨_, d.key, _, rfl⟩

/-- A delegate with a traced handler is asked once, and a failed check is a fault. -/
theorem Delegate.required_traced {t : MarkerType} {h : Handler σ} {d : Delegate (Traced σ)}
    (handler : d.handler = h.traced t) (open' : d.needs = none) (ctx : Context)
    (w : World (Traced σ)) :
    ∃ c : Check, c.marker = t ∧ c.view = d.view ∧
      (d.required ctx w).2.2.own.2 = w.own.2 ++ [.check c] ∧
      (d.required ctx w).2.1.view = d.view ∧ (d.required ctx w).2.1.handler = d.handler ∧
      ∀ f, c.Fails f → StoppedByCheck (d.required ctx w).1 := by
  rw [Delegate.required, open', handler]
  refine ⟨⟨t, d.view, (h.check ctx d.view d.control w.inner).1⟩, rfl, rfl, ?_⟩
  simp only [Handler.traced]
  cases read : (h.check ctx d.view d.control w.inner).1.bind Value.dependencies with
  | error f =>
      exact ⟨rfl, rfl, rfl, fun _ _ => Delegate.isFailedCheck_checkFault _ f⟩
  | ok ks =>
      refine ⟨rfl, rfl, rfl, fun f fails => ?_⟩
      rw [Check.Fails, read] at fails
      cases fails

/-- The handler of the station is traced under its marker type. -/
def Station.IsTraced (s : Station (Traced σ)) : Prop :=
  ∃ h, s.handler = Handler.traced s.entry.marker h

namespace Discovery

/-- What a stretch of discovery at a station adds to its queue and to the trace. -/
structure Asks {α : Type} (s : Station (Traced σ)) (w : World (Traced σ))
    (x : Except Fault α × Discovery × Station (Traced σ) × World (Traced σ))
    (ds : List (Delegate (Traced σ))) (cs : List Check) : Prop where
  handler : x.2.2.1.handler = s.handler
  marker : x.2.2.1.entry.marker = s.entry.marker
  queue : x.2.2.1.entry.queue = s.entry.queue ++ ds
  own : ∀ d ∈ ds, d.handler = s.handler
  trace : x.2.2.2.own.2 = w.own.2 ++ cs.map .check
  /-- Each check is of the delegate in its place. -/
  same : cs.map (fun c => (c.marker, c.view)) = ds.map fun d => (s.entry.marker, d.view)
  failed : ∀ c ∈ cs, ∀ f, c.Fails f → StoppedByCheck x.1

variable {α β : Type} {s : Station (Traced σ)} {w : World (Traced σ)} {q : Discovery}

theorem Asks.none (s : Station (Traced σ)) {w w' : World (Traced σ)} (silent : w'.own.2 = w.own.2)
    (result : Except Fault α) (q : Discovery) : Asks s w (result, q, s, w') [] [] where
  handler := rfl
  marker := rfl
  queue := (List.append_nil _).symm
  own _ member := nomatch member
  trace := silent.trans (List.append_nil _).symm
  same := rfl
  failed _ member := nomatch member

theorem Asks.isTraced {x : Except Fault α × Discovery × Station (Traced σ) × World (Traced σ)}
    {ds : List (Delegate (Traced σ))} {cs : List Check} (asks : Asks s w x ds cs)
    (traced : s.IsTraced) : x.2.2.1.IsTraced := by
  obtain ⟨h, handler⟩ := traced
  exact ⟨h, by rw [asks.handler, handler, asks.marker]⟩

/-- A stretch that did not end and the one that goes on from there. -/
theorem Asks.trans {a : α} {t : Station (Traced σ)} {next : World (Traced σ)}
    {x : Except Fault β × Discovery × Station (Traced σ) × World (Traced σ)}
    {ds es : List (Delegate (Traced σ))} {bs cs : List Check}
    (first : Asks s w (.ok a, q, t, next) ds cs) (second : Asks t next x es bs) :
    Asks s w x (ds ++ es) (cs ++ bs) where
  handler := second.handler.trans first.handler
  marker := second.marker.trans first.marker
  queue := by
    rw [second.queue, first.queue, List.append_assoc]
  own d member := by
    rcases List.mem_append.1 member with early | late
    · exact first.own d early
    · exact (second.own d late).trans first.handler
  trace := by
    rw [second.trace, first.trace, List.map_append, List.append_assoc]
  same := by
    have marker : t.entry.marker = s.entry.marker := first.marker
    rw [List.map_append, List.map_append, first.same, second.same, marker]
  failed c member f fails := by
    rcases List.mem_append.1 member with early | late
    · exact (first.failed c early f fails).elim
    · exact second.failed c late f fails

/-- What a stretch gives may be put in another form. -/
theorem Asks.map {x : Except Fault α × Discovery × Station (Traced σ) × World (Traced σ)}
    {ds : List (Delegate (Traced σ))} {cs : List Check} (asks : Asks s w x ds cs) (f : α → β) :
    Asks s w (x.1.map f, x.2) ds cs where
  handler := asks.handler
  marker := asks.marker
  queue := asks.queue
  own := asks.own
  trace := asks.trace
  same := asks.same
  failed c member g fails := by
    have stopped := asks.failed c member g fails
    cases result : x.1 with
    | error f => exact (result ▸ stopped : StoppedByCheck (.error f : Except Fault α))
    | ok a => exact (result ▸ stopped : StoppedByCheck (.ok a : Except Fault α)).elim

/-- A stretch that ended has ended, whatever would have come. -/
theorem Asks.error {t : Station (Traced σ)} {next : World (Traced σ)} {f : Fault}
    {ds : List (Delegate (Traced σ))} {cs : List Check}
    (asks : Asks s w ((.error f : Except Fault α), q, t, next) ds cs) :
    Asks s w ((.error f : Except Fault β), q, t, next) ds cs :=
  { asks with failed := asks.failed }

/-- Notes in between do not show in the trace. -/
theorem Asks.noted {x : Except Fault α × Discovery × Station (Traced σ) × World (Traced σ)}
    {ds : List (Delegate (Traced σ))} {cs : List Check} {w' : World (Traced σ)}
    (silent : w'.own.2 = w.own.2) (asks : Asks s w' x ds cs) : Asks s w x ds cs :=
  { asks with trace := silent ▸ asks.trace }

theorem own_noteKey (d : Delegate (Traced σ)) (w : World (Traced σ)) : (noteKey d w).own = w.own := by
  rw [noteKey]
  split <;> rfl

/-! ## One declaration -/

theorem enlist_asks (traced : s.IsTraced) (q : Discovery) (position : Nat) (x : Declaration)
    (m : Marker) (w : World (Traced σ)) :
    ∃ ds cs, Asks s w (q.enlist position s x m w) ds cs := by
  obtain ⟨h, handler⟩ := traced
  rw [enlist]
  cases x.ownerKey with
  | error f => exact ⟨[], [], .none s (by rfl) _ _⟩
  | ok key =>
      have silent := w.addType_own x.owner
      dsimp only
      generalize w.addType x.owner = outcome at silent ⊢
      obtain ⟨added, known⟩ := outcome
      cases added with
      | error f => exact ⟨[], [], .none s (congrArg Prod.snd silent) _ _⟩
      | ok _ =>
          dsimp only
          obtain ⟨c, marker, view, asked, sameView, sameHandler, fails⟩ :=
            Delegate.required_traced (d :=
              { serial := q.made, entry := position, markerName := s.entry.name, handler := s.handler
                declaration := x, marker := m, key, control := .ofKey key })
              handler rfl q.context known
          generalize Delegate.required _ _ known = outcome at asked sameView sameHandler fails ⊢
          obtain ⟨needs, z, next⟩ := outcome
          dsimp only
          have trace : next.own.2 = w.own.2 ++ [.check c] :=
            asked.trans (congrArg (· ++ [Contact.check c]) (congrArg Prod.snd silent))
          refine ⟨[z], [c], ?_⟩
          cases needs with
          | error f =>
              exact
                { handler := rfl, marker := rfl, queue := rfl, trace
                  own := fun d member => List.mem_singleton.1 member ▸ sameHandler
                  same := by rw [List.map_singleton, List.map_singleton, marker, view, sameView]
                  failed := fun c' member g failing => by
                    cases List.mem_singleton.1 member
                    exact fails g failing }
          | ok ks =>
              exact
                { handler := rfl, marker := rfl, queue := rfl
                  trace := (congrArg Prod.snd (own_noteKey z next)).trans trace
                  own := fun d member => List.mem_singleton.1 member ▸ sameHandler
                  same := by rw [List.map_singleton, List.map_singleton, marker, view, sameView]
                  failed := fun c' member g failing => by
                    cases List.mem_singleton.1 member
                    exact (fails g failing).elim }

theorem build_asks (traced : s.IsTraced) (q : Discovery) (position : Nat) (x : Declaration)
    (w : World (Traced σ)) : ∃ ds cs, Asks s w (q.build position s x w) ds cs := by
  rw [build]
  cases x.marker? s.entry.marker with
  | none =>
      dsimp only
      cases x.qualifiedName with
      | error f => exact ⟨[], [], .none s (by rfl) _ _⟩
      | ok subject => exact ⟨[], [], .none s (by rfl) _ _⟩
  | some m =>
      dsimp only
      cases x.isTestOnly with
      | error f => exact ⟨[], [], .none s (by rfl) _ _⟩
      | ok testOnly =>
          dsimp only
          split
          · cases x.text with
            | error f => exact ⟨[], [], .none s (by rfl) _ _⟩
            | ok text => exact ⟨[], [], .none s (by rfl) _ _⟩
          · obtain ⟨ds, cs, asks⟩ := enlist_asks traced q position x m w
            exact ⟨ds, cs, asks.map some⟩

/-! ## Many declarations and kinds -/

theorem buildAll_asks (traced : s.IsTraced) (position : Nat) (decls : List Declaration)
    (q : Discovery) (w : World (Traced σ)) :
    ∃ ds cs, Asks s w (buildAll position decls q s w) ds cs := by
  induction decls generalizing q s w with
  | nil => exact ⟨[], [], .none s (by rfl) _ _⟩
  | cons x decls ih =>
      obtain ⟨ds, cs, asks⟩ := build_asks traced q position x w
      rw [buildAll]
      generalize q.build position s x w = outcome at asks ⊢
      obtain ⟨unit, p, t, next⟩ := outcome
      cases unit with
      | error f => exact ⟨ds, cs, asks.error⟩
      | ok unit =>
          obtain ⟨es, bs, rest⟩ := ih (asks.isTraced traced) p next
          exact ⟨ds ++ es, cs ++ bs, asks.trans (rest.map (unit.toList ++ ·))⟩

theorem buildKinds_asks (traced : s.IsTraced) (position : Nat) (kinds : List ElementKind)
    (q : Discovery) (w : World (Traced σ)) :
    ∃ ds cs, Asks s w (buildKinds position kinds q s w) ds cs := by
  induction kinds generalizing q s w with
  | nil => exact ⟨[], [], .none s (by rfl) _ _⟩
  | cons kind kinds ih =>
      rw [buildKinds]
      obtain ⟨found, scanner, notes⟩ := q.scanner.query s.entry.marker kind q.context.packages
      dsimp only
      cases found with
      | error f =>
          cases f with
          | structural g =>
              obtain ⟨ds, cs, asks⟩ := ih traced (({ q with scanner } : Discovery).record g
                (w.note notes)).1 (({ q with scanner } : Discovery).record g (w.note notes)).2
              exact ⟨ds, cs, Asks.noted (by rfl) asks⟩
          | _ => exact ⟨[], [], .none s (by rfl) _ _⟩
      | ok decls =>
          obtain ⟨ds, cs, asks⟩ := buildAll_asks traced position decls { q with scanner } (w.note notes)
          replace asks := Asks.noted (w := w) (by rfl) asks
          dsimp only
          generalize buildAll position decls { q with scanner } s (w.note notes) = outcome at asks ⊢
          obtain ⟨units, p, t, next⟩ := outcome
          cases units with
          | error f => exact ⟨ds, cs, asks.error⟩
          | ok units =>
              obtain ⟨es, bs, rest⟩ := ih (asks.isTraced traced) p next
              exact ⟨ds ++ es, cs ++ bs, asks.trans (rest.map (units ++ ·))⟩

/-- **Discovery at a station asks once for every delegate**, up to the first check that fails. -/
theorem discover_asks (traced : s.IsTraced) (q : Discovery) (position : Nat) (w : World (Traced σ)) :
    ∃ ds cs, Asks s w (q.discover position s w) ds cs := by
  rw [discover]
  obtain ⟨asked, notes⟩ := Targets.ofType s.entry.marker
  cases asked with
  | error f => exact ⟨[], [], .none s (by rfl) _ _⟩
  | ok targets =>
  dsimp only
  rw [discoverAmong]
  have silent : (if targets.unknown.isEmpty = true then (q, w.note notes) else
      q.record (unknownTargets s.entry.marker targets.unknown) (w.note notes)).2.own.2 =
        w.own.2 := by
    split <;> rfl
  generalize (if targets.unknown.isEmpty = true then (q, w.note notes) else
    q.record (unknownTargets s.entry.marker targets.unknown) (w.note notes)) = start at silent ⊢
  obtain ⟨p, v⟩ := start
  obtain ⟨ds, cs, asks⟩ := buildKinds_asks traced position targets.kinds p v
  replace asks := asks.noted silent
  dsimp only at asks ⊢
  generalize buildKinds position targets.kinds p s v = outcome at asks ⊢
  obtain ⟨units, p', t, next⟩ := outcome
  refine ⟨ds, cs, ?_⟩
  cases units with
  | error f => exact asks
  | ok units =>
      exact
        { handler := asks.handler, marker := asks.marker, queue := asks.queue, own := asks.own
          trace := asks.trace, same := asks.same, failed := asks.failed }

end Discovery

end Marking
