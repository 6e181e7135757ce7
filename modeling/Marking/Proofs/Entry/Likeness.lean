/-
# Marking.Proofs.Entry.Likeness -- entries with like work come out alike

An entry looks at its work in two ways only, by serial number and by key, and at the world not
at all.  So when two ways of processing take like work in like worlds to equal results, like
queued work and like worlds (`Agrees`), everything that an entry does with the one it does with
the other, and the results are equal.

Which work counts as like and which worlds is left open.  With equality of both, restricted to
the worlds of some property, the statement says that the property is kept; with worlds of two
kinds it compares two runs.
-/
import Marking.Entry
import Mathlib.Data.List.Forall2

set_option autoImplicit false

namespace Marking

/-- Two outcomes in two kinds of worlds match: in what was returned, in the state that is left,
and in the world. -/
structure Matches {σ τ α α' β β' : Type} (A : α → α' → Prop) (S : β → β' → Prop)
    (R : World σ → World τ → Prop) (x : α × β × World σ) (y : α' × β' × World τ) : Prop where
  result : A x.1 y.1
  state : S x.2.1 y.2.1
  world : R x.2.2 y.2.2

/-- Outcomes that match, part by part. -/
theorem Matches.parts {σ τ α α' β β' : Type} {A : α → α' → Prop} {S : β → β' → Prop}
    {R : World σ → World τ → Prop} {x : α × β × World σ} {y : α' × β' × World τ}
    (h : Matches A S R x y) :
    ∃ a b w a' b' w', x = (a, b, w) ∧ y = (a', b', w') ∧ A a a' ∧ S b b' ∧ R w w' :=
  ⟨_, _, _, _, _, _, rfl, rfl, h.result, h.state, h.world⟩

/-- Related lists show the same when what is related does. -/
theorem map_eq_of_forall₂ {α β γ : Type} {A : α → β → Prop} {f : α → γ} {g : β → γ} {as : List α}
    {bs : List β} (related : List.Forall₂ A as bs) (same : ∀ a b, A a b → f a = g b) :
    as.map f = bs.map g := by
  induction related with
  | nil => rfl
  | cons first _ ih => rw [List.map_cons, List.map_cons, same _ _ first, ih]

/-- What is in the one list is related to something in the other. -/
theorem exists_of_forall₂ {α β : Type} {A : α → β → Prop} {as : List α} {bs : List β}
    (related : List.Forall₂ A as bs) {a : α} (member : a ∈ as) : ∃ b ∈ bs, A a b := by
  induction related with
  | nil => cases member
  | cons first _ ih =>
      rcases List.mem_cons.1 member with rfl | later
      · exact ⟨_, List.mem_cons_self, first⟩
      · obtain ⟨b, inRest, same⟩ := ih later
        exact ⟨b, List.mem_cons_of_mem _ inRest, same⟩

namespace Entry

variable {σ τ δ ε : Type}

/-- The entries differ in nothing but their work, and that is alike. -/
structure Alike (D : δ → ε → Prop) (e : Entry δ) (e' : Entry ε) : Prop where
  marker : e.marker = e'.marker
  queue : List.Forall₂ D e.queue e'.queue
  failures : e.failures = e'.failures
  state : e.state = e'.state
  passes : e.passes = e'.passes
  succeeded : e.succeeded = e'.succeeded
  removed : e.removed = e'.removed

variable {D : δ → ε → Prop} {e : Entry δ} {e' : Entry ε}

theorem isEmpty_alike {ds : List δ} {ds' : List ε} (like : List.Forall₂ D ds ds') :
    ds.isEmpty = ds'.isEmpty := by
  cases like <;> rfl

theorem Alike.remember (h : Alike D e e') (s : Nat) (f : Failure) :
    Alike D (e.remember s f) (e'.remember s f) := by
  refine { h with failures := ?_ }
  rw [Entry.remember, Entry.remember, h.failures]

theorem Alike.add (h : Alike D e e') {d : δ} {d' : ε} (like : D d d') :
    Alike D (e.add d) (e'.add d') := by
  refine { h with queue := ?_, state := ?_ }
  · exact List.rel_append h.queue (.cons like .nil)
  · rw [Entry.add, Entry.add, h.state]

theorem Alike.addAll (h : Alike D e e') {ds : List δ} {ds' : List ε}
    (like : List.Forall₂ D ds ds') : Alike D (e.addAll ds) (e'.addAll ds') := by
  induction like generalizing e e' with
  | nil => exact h
  | cons first _ ih => exact ih (h.add first)

theorem removeFirst_alike (test : δ → Bool) (test' : ε → Bool)
    (same : ∀ d d', D d d' → test d = test' d') {ds : List δ} {ds' : List ε}
    (like : List.Forall₂ D ds ds') :
    List.Forall₂ D (removeFirst test ds) (removeFirst test' ds') := by
  induction like with
  | nil => exact .nil
  | @cons d d' ds ds' first rest ih =>
      rw [removeFirst, removeFirst, same d d' first]
      split
      · exact rest
      · exact .cons first ih

variable [Work δ] [Work ε] {R : World σ → World τ → Prop} {process : Process σ δ}
  {process' : Process τ ε}

/-- Like work in like worlds is processed alike. -/
structure Agrees (D : δ → ε → Prop) (R : World σ → World τ → Prop) (process : Process σ δ)
    (process' : Process τ ε) : Prop where
  serial : ∀ {d d'}, D d d' → Work.serial d = Work.serial d'
  key : ∀ {d d'}, D d d' → Work.key d = Work.key d'
  note : ∀ {w w'} (j : Journal), R w w' → R (w.note j) (w'.note j)
  process : ∀ {d d' w w'}, D d d' → R w w' →
    Matches (· = ·) (List.Forall₂ D) R (process d w) (process' d' w')

variable {w : World σ} {w' : World τ}

theorem Alike.finish (h : Alike D e e') {d : δ} {d' : ε}
    (serial : ∀ {d d'}, D d d' → Work.serial d = Work.serial d') (like : D d d') :
    Alike D (e.finish d) (e'.finish d') := by
  have left := removeFirst_alike (fun x => Work.serial x == Work.serial d)
    (fun x => Work.serial x == Work.serial d')
    (fun x x' (same : D x x') => by rw [serial same, serial like]) h.queue
  refine { h with queue := left, failures := ?failures, succeeded := ?succeeded, state := ?state }
  case failures => rw [Entry.finish, Entry.finish, h.failures, serial like]
  case succeeded => rw [Entry.finish, Entry.finish, h.succeeded]
  case state =>
    rw [Entry.finish, Entry.finish]
    dsimp only
    rw [isEmpty_alike left, h.state]

theorem attempt_alike (agrees : Agrees D R process process') (h : Alike D e e') {d : δ} {d' : ε}
    (like : D d d') (worlds : R w w') :
    Matches (· = ·) (Alike D) R (e.attempt process d w) (e'.attempt process' d' w') := by
  obtain ⟨result, queued, next, _, queued', next', here, there, rfl, likeQueued, likeNext⟩ :=
    (agrees.process like worlds).parts
  unfold attempt
  rw [here, there]
  have added := h.addAll likeQueued
  cases result with
  | ok done =>
      cases done with
      | true => exact ⟨rfl, added.finish agrees.serial like, likeNext⟩
      | false =>
          refine ⟨rfl, ?_, likeNext⟩
          simp only [← agrees.serial like, ← agrees.key like]
          exact added.remember _ _
  | error fault =>
      cases fault with
      | injection g =>
          have sameName : (e.addAll queued).name = (e'.addAll queued').name :=
            congrArg MarkerType.name added.marker
          simp only [← agrees.serial like, ← agrees.key like, sameName]
          exact ⟨rfl, added.remember _ _, agrees.note _ likeNext⟩
      | _ => exact ⟨rfl, added, likeNext⟩

theorem attemptAll_alike (agrees : Agrees D R process process') (h : Alike D e e') {ds : List δ}
    {ds' : List ε} (like : List.Forall₂ D ds ds') (worlds : R w w') :
    Matches (· = ·) (Alike D) R (e.attemptAll process ds w) (e'.attemptAll process' ds' w') := by
  induction like generalizing e e' w w' with
  | nil => exact ⟨rfl, h, worlds⟩
  | @cons d d' ds ds' first _ ih =>
      obtain ⟨result, mid, next, _, mid', next', here, there, rfl, likeMid, likeNext⟩ :=
        (attempt_alike agrees h first worlds).parts
      rw [attemptAll, attemptAll, here, there]
      cases result with
      | ok _ => exact ih likeMid likeNext
      | error _ => exact ⟨rfl, likeMid, likeNext⟩

theorem pass_alike (agrees : Agrees D R process process') (h : Alike D e e') (worlds : R w w') :
    Matches (· = ·) (Alike D) R (e.pass process w) (e'.pass process' w') := by
  have begun : Alike D { e with state := .retrying, passes := e.passes + 1 }
      { e' with state := .retrying, passes := e'.passes + 1 } :=
    { h with state := rfl, passes := congrArg (· + 1) h.passes }
  obtain ⟨result, mid, next, _, mid', next', here, there, rfl, likeMid, likeNext⟩ :=
    (attemptAll_alike agrees begun h.queue worlds).parts
  unfold pass
  dsimp only
  rw [here, there]
  cases result with
  | error _ => exact ⟨rfl, likeMid, likeNext⟩
  | ok _ =>
      refine ⟨rfl, likeMid, ?_⟩
      have sameName : mid.name = mid'.name := congrArg MarkerType.name likeMid.marker
      simp only [sameName, likeMid.passes, likeMid.queue.length_eq, h.queue.length_eq]
      exact agrees.note _ likeNext

theorem passesWith_alike (agrees : Agrees D R process process') (fuel : Nat) (h : Alike D e e')
    (worlds : R w w') :
    Matches (· = ·) (Alike D) R (passesWith process fuel e w) (passesWith process' fuel e' w') := by
  induction fuel generalizing e e' w w' with
  | zero =>
      rw [passesWith, passesWith, isEmpty_alike h.queue]
      split <;> exact ⟨rfl, h, worlds⟩
  | succ fuel ih =>
      obtain ⟨result, mid, next, _, mid', next', here, there, rfl, likeMid, likeNext⟩ :=
        (pass_alike agrees h worlds).parts
      rw [passesWith, passesWith, isEmpty_alike h.queue, here, there]
      split
      · exact ⟨rfl, h, worlds⟩
      · cases result with
        | error _ => exact ⟨rfl, likeMid, likeNext⟩
        | ok _ =>
            simp only [likeMid.queue.length_eq, h.queue.length_eq]
            split
            · exact ⟨rfl, likeMid, likeNext⟩
            · exact ih likeMid likeNext

omit [Work δ] [Work ε] in
theorem conclude_alike (note : ∀ {w w'} (j : Journal), R w w' → R (w.note j) (w'.note j))
    (h : Alike D e e') (worlds : R w w') (initial : Nat) :
    Matches (· = ·) (Alike D) R (conclude initial e w) (conclude initial e' w') := by
  have length := h.queue.length_eq
  have removed : Alike D { e with removed := (initial : Int) - e.queue.length }
      { e' with removed := (initial : Int) - e'.queue.length } :=
    { h with removed := by rw [length] }
  unfold conclude
  dsimp only
  rw [isEmpty_alike h.queue]
  split
  · exact ⟨rfl, { removed with state := rfl }, worlds⟩
  · refine ⟨rfl, { removed with state := rfl }, ?_⟩
    have sameName : ({ e with removed := (initial : Int) - e.queue.length } : Entry δ).name =
        ({ e' with removed := (initial : Int) - e'.queue.length } : Entry ε).name :=
      congrArg MarkerType.name h.marker
    rw [sameName, length]
    exact note _ worlds

/-- **Entries with like work retry their queues alike.** -/
theorem processAll_alike (agrees : Agrees D R process process') (fuel : Nat) (h : Alike D e e')
    (worlds : R w w') :
    Matches (· = ·) (Alike D) R (e.processAll process fuel w) (e'.processAll process' fuel w') := by
  have begun : Alike D { e with failures := [] } { e' with failures := [] } :=
    { h with failures := rfl }
  obtain ⟨result, mid, next, _, mid', next', here, there, rfl, likeMid, likeNext⟩ :=
    (passesWith_alike agrees fuel begun worlds).parts
  unfold processAll
  dsimp only
  rw [here, there]
  cases result with
  | error _ => exact ⟨rfl, likeMid, likeNext⟩
  | ok _ =>
      have concluded := conclude_alike agrees.note likeMid likeNext e.queue.length
      rw [← h.queue.length_eq]
      exact ⟨congrArg Except.ok concluded.result, concluded.state, concluded.world⟩

/-! ## What processing keeps -/

def Both {α : Type} (G : α → Prop) (a b : α) : Prop := a = b ∧ G a

theorem forall₂_both {α : Type} {G : α → Prop} {ds : List α} (kind : ∀ d ∈ ds, G d) :
    List.Forall₂ (Both G) ds ds := by
  rw [List.forall₂_same]
  exact fun d member => ⟨rfl, kind d member⟩

/-- Processing work of a kind keeps a property of the world and queues work of the kind only;
notes keep the property too. -/
structure Keeps (G : δ → Prop) (P : World σ → Prop) (process : Process σ δ) : Prop where
  note : ∀ {w} (j : Journal), P w → P (w.note j)
  world : ∀ {d w}, G d → P w → P (process d w).2.2
  queued : ∀ {d w}, G d → P w → ∀ x ∈ (process d w).2.1, G x

variable {G : δ → Prop} {P : World σ → Prop}

omit [Work δ] in
theorem Alike.both {e : Entry δ} (kind : ∀ d ∈ e.queue, G d) : Alike (Both G) e e :=
  ⟨rfl, forall₂_both kind, rfl, rfl, rfl, rfl, rfl⟩

/-- A property of one world as a relation of two equal ones. -/
theorem Keeps.agrees (keeps : Keeps G P process) : Agrees (Both G) (Both P) process process where
  serial same := congrArg Work.serial same.1
  key same := congrArg Work.key same.1
  note j := fun ⟨same, holds⟩ => ⟨congrArg (World.note · j) same, keeps.note j holds⟩
  process := by
    rintro d _ w _ ⟨rfl, kind⟩ ⟨rfl, holds⟩
    exact ⟨rfl, forall₂_both (keeps.queued kind holds), rfl, keeps.world kind holds⟩

/-- Attempts of work of the kind keep the property. -/
theorem attemptAll_keeps (keeps : Keeps G P process) (kind : ∀ d ∈ e.queue, G d) {ds : List δ}
    (given : ∀ d ∈ ds, G d) (holds : P w) : P (e.attemptAll process ds w).2.2 :=
  (attemptAll_alike keeps.agrees (.both kind) (forall₂_both given) ⟨rfl, holds⟩).world.2

end Entry

end Marking
