/-
# Marking.Proofs.Entry.Lifetime -- an entry agrees with its history, come what may

A life of an entry is any sequence of operations on it: work is added, queued work is attempted,
and the queue is retried.  Processing may queue further work, may fail for now, and may raise any
fault, which then leaves the operation where it stands.

The life is lived once more in a world that keeps the history of the entry.  Keeping it changes
nothing (`operate_inner`), and at the end of every operation, however it ended, the entry agrees
with it (`Life.coherent`).  The work that is ever added must be distinct.  That is said of the
history at the end; histories only grow, so it holds of every earlier one.
-/
import Marking.Proofs.Engine.Projection
import Marking.Proofs.Entry.History
import Marking.Proofs.Entry.Likeness
import Marking.Proofs.World.Beside

set_option autoImplicit false

namespace Marking.Entry

variable {τ δ : Type}

/-! ## Keeping the history -/

def tell (w : World (τ × History δ)) (v : Event δ) : World (τ × History δ) :=
  w.inner.beside (w.own.2 ++ [v])

/-- Processing that tells each call, with the work that it queued. -/
def watched (process : Process τ δ) : Process (τ × History δ) δ := fun d w =>
  let (result, queued, next) := process d w.inner
  (result, queued, next.beside (w.own.2 ++ [.called ⟨d, result⟩ queued]))

theorem watched_projects (process : Process τ δ) : Projects World.inner (watched process) process where
  note _ _ := rfl
  process _ _ := rfl

/-- Whatever is processed, the history grows. -/
theorem watched_keeps (process : Process τ δ) (h : History δ) :
    Keeps (fun _ => True) (fun w => h <+: w.own.2) (watched process) where
  note _ grown := grown
  world _ grown := grown.trans (List.prefix_append _ _)
  queued _ _ _ _ := trivial

variable [Work δ]

/-- What can be asked of an entry.  A run over the queue has fuel; enough of it is as good as no
bound. -/
inductive Operation (δ : Type) where
  | add (d : δ)
  | attempt (d : δ)
  | processAll (fuel : Nat)

def Operation.Allowed (e : Entry δ) : Operation δ → Prop
  | attempt d => d ∈ e.queue
  | _ => True

instance [DecidableEq δ] (e : Entry δ) (op : Operation δ) : Decidable (op.Allowed e) :=
  match op with
  | .add _ => isTrue trivial
  | .attempt d => inferInstanceAs (Decidable (d ∈ e.queue))
  | .processAll _ => isTrue trivial

/-- The entry and the world that an operation leaves, in whatever way it ends. -/
def operate (process : Process τ δ) (e : Entry δ) (w : World τ) : Operation δ → Entry δ × World τ
  | .add d => (e.add d, w)
  | .attempt d => (e.attempt process d w).2
  | .processAll fuel => (e.processAll process fuel w).2

/-- The operation in a world that keeps the history. -/
def operateWatched (process : Process τ δ) (e : Entry δ) (w : World (τ × History δ)) :
    Operation δ → Entry δ × World (τ × History δ)
  | .add d => (e.add d, tell w (.added d))
  | .attempt d => (e.attempt (watched process) d w).2
  | .processAll fuel => (e.processAll (watched process) fuel (tell w .begun)).2

def events (process : Process τ δ) (fuel : Nat) (e : Entry δ) (w : World τ) : History δ :=
  (e.processAll (watched process) fuel (w.beside [])).2.2.own.2

/-- Keeping the history changes nothing. -/
theorem operate_inner (process : Process τ δ) (e : Entry δ) (w : World (τ × History δ))
    (op : Operation δ) :
    operate process e w.inner op =
      ((operateWatched process e w op).1, (operateWatched process e w op).2.inner) := by
  cases op with
  | add d => rfl
  | attempt d => exact congrArg Prod.snd (attempt_image (watched_projects process) e d w)
  | processAll fuel =>
      exact congrArg Prod.snd (processAll_image (watched_projects process) fuel e (tell w .begun))

/-! ## Every operation keeps the invariant -/

/-- The invariant holds as long as the work of the history is distinct. -/
def Sound (w : World (τ × History δ)) (e : Entry δ) : Prop :=
  (w.own.2.added.map Work.serial).Nodup → Kept w.own.2 e

theorem distinct_of_grown {h h' : History δ} (grown : h <+: h')
    (distinct : (h'.added.map Work.serial).Nodup) : (h.added.map Work.serial).Nodup := by
  obtain ⟨later, rfl⟩ := grown
  rw [History.added, List.flatMap_append, List.map_append] at distinct
  exact (List.nodup_append.1 distinct).1

variable {e : Entry δ} {w : World (τ × History δ)} {d : δ} {ds : List δ}

/-- An attempt tells its call, with the work that the call queued. -/
theorem attempt_watched (process : Process τ δ) (e : Entry δ) (d : δ) (w : World (τ × History δ)) :
    ∃ (c : Call δ) (ds : List δ), c.work = d ∧
      (e.attempt (watched process) d w).2.1 = (e.addAll ds).settle c ∧
      (e.attempt (watched process) d w).2.2.own.2 = w.own.2 ++ [.called c ds] := by
  obtain ⟨next, eq, noted⟩ := attempt_eq (watched process) e d w
  refine ⟨_, _, rfl, congrArg (fun x => x.2.1) eq, ?_⟩
  rw [eq]
  obtain rfl | ⟨-, j, rfl⟩ := noted <;> rfl

theorem Sound.attempt (process : Process τ δ) (sound : Sound w e) (queued : d ∈ e.queue) :
    Sound (e.attempt (watched process) d w).2.2 (e.attempt (watched process) d w).2.1 := by
  obtain ⟨c, ds, rfl, settled, told⟩ := attempt_watched process e d w
  intro distinct
  rw [told] at distinct ⊢
  rw [settled]
  have kept := sound (distinct_of_grown (List.prefix_append _ _) distinct)
  rw [History.added_snoc] at distinct
  exact kept.call queued distinct

omit [Work δ] in
theorem mem_removeFirst_of_not {test : δ → Bool} (member : d ∈ ds) (fails : test d = false) :
    d ∈ removeFirst test ds := by
  induction ds with
  | nil => cases member
  | cons x ds ih =>
      rw [removeFirst]
      rcases List.mem_cons.1 member with rfl | later
      · rw [fails, if_neg Bool.false_ne_true]
        exact List.mem_cons_self
      · split
        · exact later
        · exact List.mem_cons_of_mem x (ih later)

/-- Other work stays queued during an attempt. -/
theorem queued_attempt (process : Process τ δ) {x : δ} (queued : x ∈ e.queue) (differ : Work.serial x ≠ Work.serial d) :
    x ∈ (e.attempt (watched process) d w).2.1.queue := by
  obtain ⟨c, ds, rfl, settled, -⟩ := attempt_watched process e d w
  have added : x ∈ (e.addAll ds).queue := by
    rw [queue_addAll]
    exact List.mem_append_left ds queued
  rw [settled, queue_settle]
  split
  · exact mem_removeFirst_of_not added (beq_eq_false_iff_ne.2 differ)
  · exact added

/-- Attempts of distinct queued work, up to the first fault. -/
theorem Sound.attemptAll (process : Process τ δ) (sound : Sound w e) (distinct : (ds.map Work.serial).Nodup)
    (queued : ∀ d ∈ ds, d ∈ e.queue) :
    Sound (e.attemptAll (watched process) ds w).2.2 (e.attemptAll (watched process) ds w).2.1 := by
  induction ds generalizing e w with
  | nil => exact sound
  | cons d ds ih =>
      obtain ⟨fresh, rest⟩ := List.nodup_cons.1 distinct
      have attempted := sound.attempt process (queued d List.mem_cons_self)
      have still : ∀ x ∈ ds, x ∈ (e.attempt (watched process) d w).2.1.queue := fun x member =>
        queued_attempt process (queued x (List.mem_cons_of_mem d member)) fun same =>
          fresh (List.mem_map.2 ⟨x, member, same⟩)
      rw [Entry.attemptAll]
      generalize e.attempt (watched process) d w = outcome at attempted still ⊢
      obtain ⟨result, mid, next⟩ := outcome
      cases result with
      | ok _ => exact ih attempted rest still
      | error _ => exact attempted

/-- A pass attempts the queue as it stood at its beginning.  Its work is distinct because the
history at the end of the pass has all of it. -/
theorem Sound.pass (process : Process τ δ) (sound : Sound w e) :
    Sound (e.pass (watched process) w).2.2 (e.pass (watched process) w).2.1 := by
  let start : Entry δ := { e with state := .retrying, passes := e.passes + 1 }
  have begun : Sound w start := fun distinct =>
    (sound distinct).congr rfl rfl rfl fun absurd' => nomatch absurd'
  have ran : Sound (start.attemptAll (watched process) e.queue w).2.2
      (start.attemptAll (watched process) e.queue w).2.1 := by
    intro distinct
    have grown : w.own.2 <+: (start.attemptAll (watched process) e.queue w).2.2.own.2 :=
      attemptAll_keeps (watched_keeps process w.own.2) (fun _ _ => trivial) (fun _ _ => trivial)
        (List.prefix_refl _)
    have before := distinct_of_grown grown distinct
    have nodup := (sound before).tallied.nodup_queue before
    exact begun.attemptAll process nodup (fun _ member => member) distinct
  unfold Entry.pass
  dsimp only
  generalize start.attemptAll (watched process) e.queue w = outcome at ran ⊢
  obtain ⟨result, mid, next⟩ := outcome
  cases result <;> exact ran

theorem Sound.passesWith (process : Process τ δ) (sound : Sound w e) (fuel : Nat) :
    Sound (passesWith (watched process) fuel e w).2.2
      (passesWith (watched process) fuel e w).2.1 := by
  induction fuel generalizing e w with
  | zero =>
      rw [Entry.passesWith]
      split <;> exact sound
  | succ fuel ih =>
      have ran := sound.pass process
      rw [Entry.passesWith]
      split
      · exact sound
      · generalize e.pass (watched process) w = outcome at ran ⊢
        obtain ⟨result, mid, next⟩ := outcome
        cases result with
        | error _ => exact ran
        | ok _ =>
            dsimp only
            split
            · exact ran
            · exact ih ran

theorem Sound.conclude (sound : Sound w e) (initial : Nat) :
    Sound (conclude initial e w).2.2 (conclude initial e w).2.1 := by
  unfold Entry.conclude
  dsimp only
  split
  · next none =>
      exact fun distinct =>
        (sound distinct).congr rfl rfl rfl fun _ => List.isEmpty_iff.1 none
  · exact fun distinct => (sound distinct).congr rfl rfl rfl fun absurd' => nomatch absurd'

/-- A run over the queue, whether it comes to its end or a fault breaks it off. -/
theorem Sound.processAll (process : Process τ δ) (sound : Sound w e) (fuel : Nat) :
    Sound (e.processAll (watched process) fuel (tell w .begun)).2.2
      (e.processAll (watched process) fuel (tell w .begun)).2.1 := by
  have begun : Sound (tell w .begun) { e with failures := [] } := fun distinct =>
    (sound (distinct_of_grown (List.prefix_append _ _) distinct)).begin
  have ran := begun.passesWith process fuel
  unfold Entry.processAll
  dsimp only
  generalize Entry.passesWith (watched process) fuel { e with failures := [] } (tell w .begun) =
    outcome at ran ⊢
  obtain ⟨result, mid, next⟩ := outcome
  cases result with
  | error _ => exact ran
  | ok _ => exact ran.conclude e.queue.length

/-- **Every operation keeps the invariant**, however it ends. -/
theorem Sound.operate (process : Process τ δ) (sound : Sound w e) {op : Operation δ} (allowed : op.Allowed e) :
    Sound (operateWatched process e w op).2 (operateWatched process e w op).1 := by
  cases op with
  | add d =>
      intro distinct
      have told : (operateWatched process e w (.add d)).2.own.2 = w.own.2 ++ [.added d] := rfl
      rw [told] at distinct ⊢
      have kept := sound (distinct_of_grown (List.prefix_append _ _) distinct)
      rw [History.added_snoc] at distinct
      exact kept.add distinct
  | attempt d => exact sound.attempt process allowed
  | processAll fuel => exact sound.processAll process fuel

/-! ## Lives -/

/-- An entry, what processes its work, and what is asked of it in turn. -/
structure Life (τ δ : Type) where
  process : Process τ δ
  marker : MarkerType
  world : World τ
  operations : List (Operation δ)

def AllAllowed (process : Process τ δ) : List (Operation δ) → Entry δ → World τ → Prop
  | [], _, _ => True
  | op :: ops, e, w =>
    op.Allowed e ∧ AllAllowed process ops (operate process e w op).1 (operate process e w op).2

instance allAllowedDecidable [DecidableEq δ] (process : Process τ δ) :
    (ops : List (Operation δ)) → (e : Entry δ) → (w : World τ) →
      Decidable (AllAllowed process ops e w)
  | [], _, _ => isTrue trivial
  | op :: ops, e, w =>
    have := allAllowedDecidable process ops (operate process e w op).1 (operate process e w op).2
    inferInstanceAs (Decidable (op.Allowed e ∧ AllAllowed process ops _ _))

def operateAll (process : Process τ δ) (ops : List (Operation δ)) (x : Entry δ × World τ) :
    Entry δ × World τ :=
  ops.foldl (fun x op => operate process x.1 x.2 op) x

def operateAllWatched (process : Process τ δ) (ops : List (Operation δ))
    (x : Entry δ × World (τ × History δ)) : Entry δ × World (τ × History δ) :=
  ops.foldl (fun x op => operateWatched process x.1 x.2 op) x

theorem operateAll_inner (process : Process τ δ) (ops : List (Operation δ)) (e : Entry δ)
    (w : World (τ × History δ)) :
    operateAll process ops (e, w.inner) =
      ((operateAllWatched process ops (e, w)).1, (operateAllWatched process ops (e, w)).2.inner) := by
  induction ops generalizing e w with
  | nil => rfl
  | cons op ops ih =>
      rw [operateAll, List.foldl_cons, operate_inner]
      exact ih _ _

theorem Sound.operateAll {process : Process τ δ} (ops : List (Operation δ)) (sound : Sound w e)
    (allowed : AllAllowed process ops e w.inner) :
    Sound (operateAllWatched process ops (e, w)).2 (operateAllWatched process ops (e, w)).1 := by
  induction ops generalizing e w with
  | nil => exact sound
  | cons op ops ih =>
      obtain ⟨first, rest⟩ := allowed
      rw [operate_inner] at rest
      exact ih (sound.operate process first) rest

namespace Life

variable (l : Life τ δ)

def entry : Entry δ := (operateAll l.process l.operations ({ marker := l.marker }, l.world)).1

def history : History δ :=
  (operateAllWatched l.process l.operations ({ marker := l.marker }, l.world.beside [])).2.own.2

/-- Only work that was queued at the time was attempted. -/
def Allowed : Prop := AllAllowed l.process l.operations { marker := l.marker } l.world

def Distinct : Prop := (l.history.added.map Work.serial).Nodup

/-- **At the end of every operation, an entry agrees with its history.**  Success and what is
queued make up what was ever added; the queue has what was added in that order, but for what
succeeded; a complete entry has nothing queued; and what is queued and was called to the end
since the last run over the queue began has failed, with the failure of its last such call. -/
theorem coherent (allowed : l.Allowed) (distinct : l.Distinct) : Coherent l.history l.entry := by
  have sound : Sound (l.world.beside ([] : History δ)) ({ marker := l.marker } : Entry δ) :=
    fun _ => kept_nil l.marker
  have final := sound.operateAll l.operations allowed distinct
  have same := operateAll_inner l.process l.operations { marker := l.marker } (l.world.beside [])
  rw [entry, ← World.inner_beside l.world ([] : History δ), same]
  exact final.toCoherent

end Life

/-! ## A small life -/

namespace Sample

structure Chore where
  number : Nat
  deriving DecidableEq

instance : Work Chore := ⟨Chore.number, fun _ => ⟨"chore", .type⟩⟩

/-- Chores are numbered from zero.  The first queues a third one and is done, the second has to
be tried three times, and the third raises a fault at first and is never done. -/
def chores : Life Nat Chore where
  process d w :=
    match d.number with
    | 0 => (.ok true, [⟨2⟩], w)
    | 1 =>
      if w.own < 2 then (.error (.injection ⟨"not yet", none⟩), [], { w with own := w.own + 1 })
      else (.ok true, [], w)
    | _ =>
      if w.own < 2 then (.error (.noSuchUnit "broom"), [], { w with own := w.own + 1 })
      else (.ok false, [], w)
  marker := .derive .root 2 "Chore" (some "sample") (some (.kind .type))
  world := { own := 0 }
  operations := [.add ⟨0⟩, .add ⟨1⟩, .attempt ⟨0⟩, .processAll 4, .attempt ⟨2⟩, .processAll 4]

theorem chores_coherent : chores.Allowed ∧ chores.Distinct ∧
    Coherent chores.history chores.entry :=
  have allowed : chores.Allowed := by
    unfold Life.Allowed
    decide +kernel
  have distinct : chores.Distinct := by
    unfold Life.Distinct
    decide +kernel
  ⟨allowed, distinct, chores.coherent allowed distinct⟩

/-- The first run over the queue is broken off, the second ends with the third chore left. -/
example : chores.entry.failed = [⟨2⟩] ∧ chores.entry.state = .stalled ∧
    chores.entry.succeeded = 2 ∧ chores.history.recent.length = 3 := by
  decide +kernel

end Sample

end Marking.Entry
