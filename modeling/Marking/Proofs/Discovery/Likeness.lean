/-
# Marking.Proofs.Discovery.Likeness -- stations with like handlers discover alike

Discovery does nothing to a world but to note things, to learn types and to ask handlers.  A
relation of worlds that the first two respect (`World.Likeness`) therefore carries through all of
discovery once the handlers respect it (`Handler.Alike`): stations with like handlers enlist like
delegates, find like units and record the same faults.  Like delegates are processed alike as well
(`work_agrees`), so the relation carries on through the stages that follow.

The stages that follow need less than that both discover from the same state.  `InStep` says what
they need of related ones.
-/
import Marking.Discovery
import Marking.Proofs.Engine.Likeness

set_option autoImplicit false

namespace Marking

variable {σ τ : Type} {R : World σ → World τ → Prop} {w : World σ} {w' : World τ}

/-! ## Worlds and handlers -/

/-- The worlds know the same types, and stay related when both learn or note the same. -/
structure World.Likeness (R : World σ → World τ → Prop) : Prop where
  types : ∀ {w w'}, R w w' → w.types = w'.types
  learn : ∀ {w w'} (types : TypeRegistry), R w w' → R { w with types } { w' with types }
  note : ∀ {w w'} (j : Journal), R w w' → R (w.note j) (w'.note j)

theorem World.Likeness.addType (likeness : Likeness R) (worlds : R w w') (v : Value) :
    (w.addType v).1 = (w'.addType v).1 ∧ R (w.addType v).2 (w'.addType v).2 := by
  rw [World.addType, World.addType, ← likeness.types worlds]
  cases w.types.addType v with
  | error f => exact ⟨rfl, worlds⟩
  | ok learned => exact ⟨rfl, likeness.note _ (likeness.learn _ worlds)⟩

theorem World.Likeness.getInjector (likeness : Likeness R) (worlds : R w w') (v : Value) :
    (w.getInjector v).1 = (w'.getInjector v).1 ∧ R (w.getInjector v).2 (w'.getInjector v).2 := by
  rw [World.getInjector, World.getInjector, ← likeness.types worlds]
  cases w.types.getInjector v with
  | error f => exact ⟨rfl, worlds⟩
  | ok found => exact ⟨rfl, likeness.note _ (likeness.learn _ worlds)⟩

/-- The handlers answer alike in related worlds and leave related worlds. -/
structure Handler.Alike (R : World σ → World τ → Prop) (h : Handler σ) (h' : Handler τ) : Prop where
  check : ∀ (ctx : Context) (v : View) (c : Control) {w w'}, R w w' →
    Matches (· = ·) (· = ·) R (h.check ctx v c w) (h'.check ctx v c w')
  handle : ∀ (ctx : Context) (v : View) {w w'}, R w w' →
    (h.handle ctx v w).1 = (h'.handle ctx v w').1 ∧ R (h.handle ctx v w).2 (h'.handle ctx v w').2

/-! ## Delegates -/

/-- The delegates differ in nothing but their handlers, and those are alike. -/
structure Delegate.Alike (R : World σ → World τ → Prop) (d : Delegate σ) (d' : Delegate τ) :
    Prop where
  serial : d.serial = d'.serial
  entry : d.entry = d'.entry
  markerName : d.markerName = d'.markerName
  handler : Handler.Alike R d.handler d'.handler
  declaration : d.declaration = d'.declaration
  marker : d.marker = d'.marker
  key : d.key = d'.key
  control : d.control = d'.control
  needs : d.needs = d'.needs

variable {d : Delegate σ} {d' : Delegate τ}

theorem Delegate.Alike.view (like : Alike R d d') : d.view = d'.view := by
  rw [Delegate.view, Delegate.view, like.declaration, like.marker]

theorem Delegate.Alike.text (like : Alike R d d') : d.text = d'.text := by
  rw [Delegate.text, Delegate.text, Delegate.subject, Delegate.subject, like.markerName,
    like.declaration, like.key]

theorem Delegate.Alike.checkFault (like : Alike R d d') (f : Fault) :
    d.checkFault f = d'.checkFault f := by
  unfold Delegate.checkFault
  rw [like.key, like.markerName]

/-- Like delegates are asked for their needs alike. -/
theorem Delegate.Alike.required (likeness : World.Likeness R) (like : Alike R d d') (ctx : Context)
    (worlds : R w w') :
    Matches (· = ·) (Alike R) R (d.required ctx w) (d'.required ctx w') := by
  rw [Delegate.required, Delegate.required, ← like.needs]
  cases d.needs with
  | some ks => exact ⟨rfl, like, worlds⟩
  | none =>
      obtain ⟨answer, control, next, _, _, next', asked, asked', rfl, rfl, likeNext⟩ :=
        (like.handler.check ctx d.view d.control worlds).parts
      have same : Alike R { d with control, needs := none } { d' with control, needs := none } :=
        { like with control := rfl, needs := rfl }
      rw [← like.view, ← like.control, asked, asked']
      dsimp only
      cases answer.bind Value.dependencies with
      | error f => exact ⟨congrArg Except.error (same.checkFault f), same, likeNext⟩
      | ok ks =>
          refine ⟨rfl, { same with needs := rfl }, ?_⟩
          dsimp only
          rw [same.text]
          exact likeness.note _ likeNext

/-- Like delegates are processed alike. -/
theorem Delegate.Alike.process (likeness : World.Likeness R) (like : Alike R d d') (ctx : Context)
    (worlds : R w w') :
    (d.process ctx w).1 = (d'.process ctx w').1 ∧ R (d.process ctx w).2 (d'.process ctx w').2 := by
  obtain ⟨sameAdded, likeKnown⟩ := likeness.addType worlds d.declaration.owner
  rw [Delegate.process, Delegate.process, ← like.declaration, ← like.view]
  generalize w.addType d.declaration.owner = x at sameAdded likeKnown ⊢
  generalize w'.addType d.declaration.owner = y at sameAdded likeKnown ⊢
  obtain ⟨added, known⟩ := x
  obtain ⟨added', known'⟩ := y
  cases sameAdded
  cases added with
  | error f => exact ⟨rfl, likeKnown⟩
  | ok _ =>
      obtain ⟨sameFound, likeReady⟩ := likeness.getInjector likeKnown d.declaration.owner
      dsimp only
      generalize known.getInjector d.declaration.owner = x at sameFound likeReady ⊢
      generalize known'.getInjector d.declaration.owner = y at sameFound likeReady ⊢
      obtain ⟨found, ready⟩ := x
      obtain ⟨found', ready'⟩ := y
      cases sameFound
      cases found with
      | error f => exact ⟨rfl, likeReady⟩
      | ok injector => exact like.handler.handle ctx (d.view.commit injector) likeReady

/-- **How a run processes work agrees with itself on like delegates.** -/
theorem Engine.work_agrees (likeness : World.Likeness R) (ctx : Context) :
    Entry.Agrees (Delegate.Alike R) R (Engine.work ctx) (Engine.work ctx) where
  serial like := like.serial
  key like := like.key
  note j := likeness.note j
  process like worlds :=
    ⟨(like.process likeness ctx worlds).1, .nil, (like.process likeness ctx worlds).2⟩

/-! ## Stations -/

/-- The stations differ in nothing but handlers, and those are alike. -/
structure Station.Alike (R : World σ → World τ → Prop) (s : Station σ) (s' : Station τ) : Prop where
  handler : Handler.Alike R s.handler s'.handler
  entry : Entry.Alike (Delegate.Alike R) s.entry s'.entry

theorem Station.Alike.name {s : Station σ} {s' : Station τ} (like : Alike R s s') :
    s.entry.name = s'.entry.name :=
  congrArg MarkerType.name like.entry.marker

inductive Gives {α β : Type} (A : α → β → Prop) : Except Fault α → Except Fault β → Prop
  | ok {a : α} {b : β} : A a b → Gives A (.ok a) (.ok b)
  | error (f : Fault) : Gives A (.error f) (.error f)

theorem Gives.map {α α' β β' : Type} {A : α → β → Prop} {B : α' → β' → Prop} {f : α → α'}
    {g : β → β'} (maps : ∀ a b, A a b → B (f a) (g b)) {x : Except Fault α} {y : Except Fault β}
    (gives : Gives A x y) : Gives B (x.map f) (y.map g) := by
  cases gives with
  | ok like => exact .ok (maps _ _ like)
  | error f => exact .error f

namespace Discovery

structure Coincides {α β : Type} (A : α → β → Prop) (R : World σ → World τ → Prop)
    (x : Except Fault α × Discovery × Station σ × World σ)
    (y : Except Fault β × Discovery × Station τ × World τ) : Prop where
  result : Gives A x.1 y.1
  discovery : x.2.1 = y.2.1
  station : Station.Alike R x.2.2.1 y.2.2.1
  world : R x.2.2.2 y.2.2.2

theorem Coincides.parts {α β : Type} {A : α → β → Prop}
    {x : Except Fault α × Discovery × Station σ × World σ}
    {y : Except Fault β × Discovery × Station τ × World τ} (h : Coincides A R x y) :
    ∃ a b d s s' w w', x = (a, d, s, w) ∧ y = (b, d, s', w') ∧ Gives A a b ∧ Station.Alike R s s' ∧
      R w w' := by
  obtain ⟨a, d, s, w⟩ := x
  obtain ⟨b, _, s', w'⟩ := y
  obtain ⟨result, rfl, station, world⟩ := h
  exact ⟨a, b, d, s, s', w, w', rfl, rfl, result, station, world⟩

abbrev UnitsAlike (R : World σ → World τ → Prop) :
    List (WorkUnit (Delegate σ)) → List (WorkUnit (Delegate τ)) → Prop :=
  List.Forall₂ (WorkUnit.Alike (Delegate.Alike R))

/-- Two steps of discovery correspond: they coincide but for their states, which are related. -/
structure Corresponds {α β : Type} (A : α → β → Prop) (Q : Discovery → Discovery → Prop)
    (R : World σ → World τ → Prop) (x : Except Fault α × Discovery × Station σ × World σ)
    (y : Except Fault β × Discovery × Station τ × World τ) : Prop where
  result : Gives A x.1 y.1
  discovery : Q x.2.1 y.2.1
  station : Station.Alike R x.2.2.1 y.2.2.1
  world : R x.2.2.2 y.2.2.2

/-- Discovery goes hand in hand from related states: they record the same faults, and at like
stations the one finds what the other finds and they stay related. -/
structure InStep (Q : Discovery → Discovery → Prop) (R : World σ → World τ → Prop) : Prop where
  structural : ∀ {q q'}, Q q q' → q.structural = q'.structural
  discover : ∀ {q q' : Discovery} (position : Nat) {s : Station σ} {s' : Station τ} {w : World σ}
    {w' : World τ}, Q q q' → Station.Alike R s s' → R w w' →
    Corresponds (UnitsAlike R) Q R (q.discover position s w) (q'.discover position s' w')

variable {s : Station σ} {s' : Station τ} (likeness : World.Likeness R)
include likeness

theorem noteKey_alike (like : Delegate.Alike R d d') (worlds : R w w') :
    R (noteKey d w) (noteKey d' w') := by
  rw [noteKey, noteKey, ← like.control, like.text, Delegate.unitKey, Delegate.unitKey, ← like.control]
  split
  · exact likeness.note _ worlds
  · exact worlds

theorem enlist_alike (q : Discovery) (position : Nat) (x : Declaration) (m : Marker)
    (stations : Station.Alike R s s') (worlds : R w w') :
    Coincides (WorkUnit.Alike (Delegate.Alike R)) R (q.enlist position s x m w)
      (q.enlist position s' x m w') := by
  rw [enlist, enlist]
  cases x.ownerKey with
  | error f => exact ⟨.error f, rfl, stations, worlds⟩
  | ok key =>
      obtain ⟨sameAdded, likeKnown⟩ := likeness.addType worlds x.owner
      dsimp only
      generalize w.addType x.owner = a at sameAdded likeKnown ⊢
      generalize w'.addType x.owner = b at sameAdded likeKnown ⊢
      obtain ⟨added, known⟩ := a
      obtain ⟨added', known'⟩ := b
      cases sameAdded
      cases added with
      | error f => exact ⟨.error f, rfl, stations, likeKnown⟩
      | ok _ =>
          have made : Delegate.Alike R
              { serial := q.made, entry := position, markerName := s.entry.name, handler := s.handler
                declaration := x, marker := m, key, control := .ofKey key }
              { serial := q.made, entry := position, markerName := s'.entry.name
                handler := s'.handler, declaration := x, marker := m, key, control := .ofKey key } :=
            ⟨rfl, rfl, stations.name, stations.handler, rfl, rfl, rfl, rfl, rfl⟩
          obtain ⟨needs, y, next, _, y', next', asked, asked', rfl, like, likeNext⟩ :=
            (made.required likeness q.context likeKnown).parts
          have queued : Station.Alike R { s with entry := s.entry.add y }
              { s' with entry := s'.entry.add y' } := ⟨stations.handler, stations.entry.add like⟩
          dsimp only
          rw [asked, asked']
          cases needs with
          | error f => exact ⟨.error f, rfl, queued, likeNext⟩
          | ok ks =>
              refine ⟨.ok ⟨?_, .cons like .nil, rfl, rfl⟩, rfl, queued,
                noteKey_alike likeness like likeNext⟩
              exact congrArg Control.key like.control

theorem build_alike (q : Discovery) (position : Nat) (x : Declaration)
    (stations : Station.Alike R s s') (worlds : R w w') :
    Coincides (Option.Rel (WorkUnit.Alike (Delegate.Alike R))) R (q.build position s x w)
      (q.build position s' x w') := by
  rw [build, build, ← stations.entry.marker, ← stations.name]
  cases x.marker? s.entry.marker with
  | none =>
      dsimp only
      cases x.qualifiedName with
      | error f => exact ⟨.error f, rfl, stations, worlds⟩
      | ok subject => exact ⟨.ok .none, rfl, stations, likeness.note _ worlds⟩
  | some m =>
      dsimp only
      cases x.isTestOnly with
      | error f => exact ⟨.error f, rfl, stations, worlds⟩
      | ok testOnly =>
          dsimp only
          split
          · cases x.text with
            | error f => exact ⟨.ok .none, rfl, stations, worlds⟩
            | ok text => exact ⟨.ok .none, rfl, stations, likeness.note _ worlds⟩
          · obtain ⟨unit, unit', p, t, t', next, next', listed, listed', gives, likeT, likeNext⟩ :=
              (enlist_alike likeness q position x m stations worlds).parts
            rw [listed, listed']
            exact ⟨gives.map fun _ _ like => .some like, rfl, likeT, likeNext⟩

theorem buildAll_alike (position : Nat) (decls : List Declaration) (q : Discovery)
    (stations : Station.Alike R s s') (worlds : R w w') :
    Coincides (UnitsAlike R) R (buildAll position decls q s w) (buildAll position decls q s' w') := by
  induction decls generalizing q s s' w w' with
  | nil => exact ⟨.ok .nil, rfl, stations, worlds⟩
  | cons x decls ih =>
      obtain ⟨unit, unit', p, t, t', next, next', built, built', gives, likeT, likeNext⟩ :=
        (build_alike likeness q position x stations worlds).parts
      rw [buildAll, buildAll, built, built']
      cases gives with
      | error f => exact ⟨.error f, rfl, likeT, likeNext⟩
      | ok first =>
          obtain ⟨more, more', last, u, u', final, final', rest, rest', givesRest, likeU, likeFinal⟩ :=
            (ih p likeT likeNext).parts
          dsimp only
          rw [rest, rest']
          refine ⟨givesRest.map fun us vs likeRest => ?_, rfl, likeU, likeFinal⟩
          cases first with
          | none => exact likeRest
          | some like => exact .cons like likeRest

theorem buildKinds_alike (position : Nat) (kinds : List ElementKind) (q : Discovery)
    (stations : Station.Alike R s s') (worlds : R w w') :
    Coincides (UnitsAlike R) R (buildKinds position kinds q s w)
      (buildKinds position kinds q s' w') := by
  induction kinds generalizing q s s' w w' with
  | nil => exact ⟨.ok .nil, rfl, stations, worlds⟩
  | cons kind kinds ih =>
      rw [buildKinds, buildKinds, ← stations.entry.marker]
      obtain ⟨found, scanner, notes⟩ := q.scanner.query s.entry.marker kind q.context.packages
      have noted := likeness.note notes worlds
      dsimp only
      cases found with
      | error f =>
          cases f with
          | structural g => exact ih _ stations (likeness.note _ noted)
          | _ => exact ⟨.error _, rfl, stations, noted⟩
      | ok decls =>
          obtain ⟨units, units', p, t, t', next, next', built, built', gives, likeT, likeNext⟩ :=
            (buildAll_alike likeness position decls { q with scanner } stations noted).parts
          dsimp only
          rw [built, built']
          cases gives with
          | error f => exact ⟨.error f, rfl, likeT, likeNext⟩
          | ok first =>
              obtain ⟨more, more', last, u, u', final, final', rest, rest', givesRest, likeU,
                likeFinal⟩ := (ih p likeT likeNext).parts
              dsimp only
              rw [rest, rest']
              exact ⟨givesRest.map fun us vs likeRest => List.rel_append first likeRest, rfl, likeU,
                likeFinal⟩

/-- Discovery goes hand in hand when looking for declarations does and related states record the
same faults. -/
theorem inStep_of_kinds {Q : Discovery → Discovery → Prop}
    (structural : ∀ {q q'}, Q q q' → q.structural = q'.structural)
    (record : ∀ {q q'} (f : StructuralFault) (w : World σ) (w' : World τ), Q q q' →
      Q (q.record f w).1 (q'.record f w').1)
    (looks : ∀ {q q' : Discovery} (position : Nat) (kinds : List ElementKind) {s : Station σ}
      {s' : Station τ} {w : World σ} {w' : World τ}, Q q q' → Station.Alike R s s' → R w w' →
      Corresponds (UnitsAlike R) Q R (buildKinds position kinds q s w)
        (buildKinds position kinds q' s' w')) : InStep Q R where
  structural := structural
  discover {q q'} position {s s' w w'} states stations worlds := by
    rw [discover, discover, ← stations.entry.marker]
    obtain ⟨asked, notes⟩ := Targets.ofType s.entry.marker
    have noted := likeness.note notes worlds
    cases asked with
    | error f => exact ⟨.error f, states, stations, noted⟩
    | ok targets =>
    dsimp only
    rw [discoverAmong, discoverAmong, ← stations.entry.marker]
    have start : ∃ p p' v v',
        (if targets.unknown.isEmpty then (q, w.note notes)
          else q.record (unknownTargets s.entry.marker targets.unknown) (w.note notes)) = (p, v) ∧
        (if targets.unknown.isEmpty then (q', w'.note notes)
          else q'.record (unknownTargets s.entry.marker targets.unknown) (w'.note notes)) = (p', v') ∧
        Q p p' ∧ R v v' := by
      by_cases known : targets.unknown.isEmpty = true
      · rw [if_pos known, if_pos known]
        exact ⟨_, _, _, _, rfl, rfl, states, noted⟩
      · rw [if_neg known, if_neg known]
        exact ⟨_, _, _, _, rfl, rfl, record _ (w.note notes) (w'.note notes) states,
          likeness.note _ noted⟩
    obtain ⟨p, p', v, v', first, first', begun, likeV⟩ := start
    have built := looks position targets.kinds begun stations likeV
    rw [first, first']
    dsimp only
    generalize buildKinds position targets.kinds p s v = x at built ⊢
    generalize buildKinds position targets.kinds p' s' v' = y at built ⊢
    obtain ⟨units, last, t, next⟩ := x
    obtain ⟨units', last', t', next'⟩ := y
    obtain ⟨gives, states, likeT, likeNext⟩ := built
    cases gives with
    | error f => exact ⟨.error f, states, likeT, likeNext⟩
    | ok like =>
        refine ⟨.ok like, states, likeT, ?_⟩
        dsimp only
        rw [like.length_eq, likeT.name]
        exact likeness.note _ likeNext

/-- **Stations with like handlers discover alike.** -/
theorem inStep_eq : InStep (σ := σ) (τ := τ) (· = ·) R := by
  refine inStep_of_kinds likeness (congrArg Discovery.structural) ?_ ?_
  · rintro q _ f w w' rfl
    rfl
  · rintro q _ position kinds s s' w w' rfl stations worlds
    have both := buildKinds_alike likeness position kinds q stations worlds
    exact ⟨both.result, both.discovery, both.station, both.world⟩

end Discovery

end Marking
