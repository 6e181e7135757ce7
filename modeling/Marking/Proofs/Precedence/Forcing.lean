/-
# Marking.Proofs.Precedence.Forcing -- what is forced, and why something always can be

An order that is explained (`Explains`) tells exactly which nodes were forced: those that come
before something that they wait for.  A forced node was a knot and was not ready, so it lies on
a cycle (`Explains.cyclic`); and along a cycle the order cannot always go down, so every cycle
has a forced node (`Explains.meets_cycle`).

The counted passes are followed step by step to see that they never give up: whatever the number
of steps, a state that has to force finds a component that waits for nothing outside itself
(`passes_break`), and the steps that they are given are enough (`passes_end`).
-/
import Mathlib.Data.List.Chain
import Marking.Proofs.Precedence.Passes

set_option autoImplicit false

namespace Marking

variable {β : Type} {waits : β → β → Prop} {nodes order forced : List β}

/-! ## Forced nodes -/

/-- A node is forced exactly when something that it waits for does not come before it. -/
theorem Explains.forced_iff (h : Explains waits nodes order forced) {before after : List β} {u : β}
    (split : order = before ++ u :: after) :
    u ∈ forced ↔ ∃ v ∈ nodes, waits u v ∧ v ∉ before := by
  rcases h.placed before u after split with ⟨free, ready⟩ | ⟨isForced, notReady, -⟩
  · refine ⟨fun isForced => absurd isForced free, ?_⟩
    rintro ⟨v, member, awaits, missing⟩
    exact absurd (ready v member awaits) missing
  · refine ⟨fun _ => ?_, fun _ => isForced⟩
    simpa only [Ready, not_forall, exists_prop] using notReady

/-- A forced node waits, over others, for itself. -/
theorem Explains.cyclic (h : Explains waits nodes order forced) {u : β} (isForced : u ∈ forced) :
    Relation.TransGen waits u u := by
  obtain ⟨before, after, split⟩ := List.append_of_mem (h.sublist.subset isForced)
  obtain ⟨v, member, awaits, missing⟩ := (h.forced_iff split).1 isForced
  rcases h.placed before u after split with ⟨free, -⟩ | ⟨-, -, knot⟩
  · exact absurd isForced free
  · have back : Reaches (Blocks waits nodes before) v u :=
      knot v (.single ⟨awaits, member, missing⟩)
    exact .head' awaits (back.map id fun _ _ step => step.1)

/-- What a node that is not forced waits for stands before it. -/
theorem Explains.idxOf_lt [DecidableEq β] (h : Explains waits nodes order forced) {u v : β}
    (inOrder : u ∈ order) (free : u ∉ forced) (member : v ∈ nodes) (awaits : waits u v) :
    order.idxOf v < order.idxOf u := by
  obtain ⟨before, after, split⟩ := List.append_of_mem inOrder
  have nodup := h.nodup
  rw [split, List.nodup_append] at nodup
  have fresh : u ∉ before := fun early => nodup.2.2 u early u List.mem_cons_self rfl
  have early : v ∈ before := by
    by_contra missing
    exact free ((h.forced_iff split).2 ⟨v, member, awaits, missing⟩)
  rw [split, List.idxOf_append_of_mem early, List.idxOf_append_of_notMem fresh,
    List.idxOf_cons_self]
  exact (List.idxOf_lt_length_of_mem early).trans_le (Nat.le_add_right _ _)

/-- **Every cycle has a forced node.** -/
theorem Explains.meets_cycle [DecidableEq β] (h : Explains waits nodes order forced)
    (known : ∀ u v, waits u v → u ∈ order ∧ v ∈ nodes) {u : β} {us : List β}
    (cycle : List.IsChain waits (u :: (us ++ [u]))) : ∃ v ∈ u :: us, v ∈ forced := by
  by_contra none
  have descends : List.IsChain (fun a b => order.idxOf b < order.idxOf a) (u :: (us ++ [u])) := by
    refine cycle.imp_of_mem_imp fun a b aMember _ awaits => ?_
    have inCycle : a ∈ u :: us := by
      rw [List.mem_cons, List.mem_append, List.mem_singleton] at aMember
      rw [List.mem_cons]
      tauto
    have free : a ∉ forced := fun isForced => none ⟨a, inCycle, isForced⟩
    exact h.idxOf_lt (known a b awaits).1 free (known a b awaits).2 awaits
  have : Trans (fun a b => order.idxOf b < order.idxOf a) (fun a b => order.idxOf b < order.idxOf a)
      (fun a b => order.idxOf b < order.idxOf a) := ⟨fun first second => second.trans first⟩
  exact Nat.lt_irrefl _ (descends.rel_cons (List.mem_append_right us List.mem_cons_self))

/-! ## The counted passes, step by step -/

namespace Precedence

namespace Passes

variable {p : Precedence} {s : Passes}

def IsStuck (p : Precedence) (s : Passes) : Prop :=
  s.order.length < p.size ∧ s.current = [] ∧ s.upcoming = []

theorem Sound.step (h : Sound p s) (unfinished : s.order.length < p.size) : Sound p (step p s) := by
  cases current : s.current with
  | cons i rest =>
      obtain ⟨-, -, -, emitted, -⟩ := h.emitHead current
      exact emitted.sound
  | nil =>
      by_cases waiting : s.upcoming = []
      · obtain ⟨_, -, sound, -⟩ := h.forceStep current waiting unfinished
        exact sound
      · obtain ⟨stepEq, -⟩ := h.beginStep current waiting
        rw [stepEq]
        exact h.beginPass current

theorem Sound.run (h : Sound p s) (n : Nat) : Sound p (run p n s) := by
  induction n generalizing s with
  | zero => exact h
  | succ n ih =>
      rw [Passes.run]
      split
      · exact ih (h.step ‹_›)
      · exact h

/-- A state that has to force finds a component to break. -/
theorem Sound.breaks (h : Sound p s) (stuck : IsStuck p s) :
    ∃ c, p.selfContained? (s.blocked p) = some c ∧ p.cycleBreaker (s.blocked p) = least c :=
  exists_selfContained (fun _ member => ((mem_blocked h.toCounted).1 member).1)
    (blocked_ne_nil h.toCounted stuck.1)

theorem run_of_ended (ended : p.size ≤ s.order.length) (n : Nat) : run p n s = s := by
  cases n with
  | zero => rfl
  | succ n => rw [run, if_neg (Nat.not_lt.2 ended)]

theorem run_add (m n : Nat) : run p (m + n) s = run p n (run p m s) := by
  induction m generalizing s with
  | zero => rw [Nat.zero_add, run]
  | succ m ih =>
      rw [Nat.succ_add, run, run]
      split
      · exact ih
      · exact (run_of_ended (Nat.le_of_not_lt ‹_›) n).symm

end Passes

/-- **Whenever the passes have to force, there is a component to break.** -/
theorem passes_break (p : Precedence) (n : Nat)
    (stuck : Passes.IsStuck p ((Passes.start p).run p n)) :
    ∃ c, p.selfContained? (((Passes.start p).run p n).blocked p) = some c ∧
      p.cycleBreaker (((Passes.start p).run p n).blocked p) = least c :=
  ((Passes.sound_start p).run n).breaks stuck

/-- **The passes end**: they order every position, and more steps would change nothing. -/
theorem passes_end (p : Precedence) :
    p.passes.order.length = p.size ∧
      ∀ fuel, 2 * p.size ≤ fuel → (Passes.start p).run p fuel = p.passes := by
  obtain ⟨explained, all⟩ := (passes_sweeps p).explains explains_nil
  have perm : p.passes.order.Perm p.positions :=
    (List.perm_ext_iff_of_nodup explained.nodup List.nodup_range).2 fun i =>
      ⟨explained.subset i, all i⟩
  have length : p.passes.order.length = p.size := perm.length_eq.trans p.length_positions
  refine ⟨length, fun fuel enough => ?_⟩
  obtain ⟨more, rfl⟩ := Nat.exists_eq_add_of_le enough
  rw [Passes.run_add]
  exact Passes.run_of_ended length.ge more

end Precedence

end Marking
