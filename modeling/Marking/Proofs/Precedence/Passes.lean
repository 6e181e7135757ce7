/-
# Marking.Proofs.Precedence.Passes -- counted passes are repeated passes

`Passes` never scans the positions: it keeps a count of unmet needs for each of them, the
ready positions of this pass in rising order, and those of the next pass.  `Sound` ties these
to the order made so far: the counts are exact, and the two lists together hold every
position that is ready and not emitted.

The heart is `pass_steps`.  While a plain pass looks at position `i`, the current list holds
exactly the ready positions from `i` on and the other list those before `i`.  So the
counted pass emits what the plain pass emits, one step for each emission, and the passes end
within the number of steps that they are given (`passes_sweeps`).
-/
import Mathlib.Data.List.Range
import Marking.Proofs.Precedence.Knots
import Marking.Proofs.Precedence.Unmet

set_option autoImplicit false

namespace Marking.Precedence

/-! ## One emission -/

namespace Passes

/-- The last unmet need of the position is about to be met. -/
def Readied (s : Passes) (i : Nat) : Prop := s.waiting.getD i 0 - 1 = 0 ∧ s.isEmitted i = false

structure Released (bar : Nat) (feeds : List Nat) (s t : Passes) : Prop where
  emitted : t.emitted = s.emitted
  order : t.order = s.order
  forced : t.forced = s.forced
  size_waiting : t.waiting.size = s.waiting.size
  waiting : ∀ i, t.waiting.getD i 0 = s.waiting.getD i 0 - if i ∈ feeds then 1 else 0
  mem_current : ∀ i, i ∈ t.current ↔ i ∈ s.current ∨ (i ∈ feeds ∧ s.Readied i ∧ bar < i)
  mem_upcoming : ∀ i, i ∈ t.upcoming ↔ i ∈ s.upcoming ∨ (i ∈ feeds ∧ s.Readied i ∧ ¬ bar < i)
  rising : s.current.Pairwise (· < ·) → (∀ i ∈ feeds, i ∉ s.current) → t.current.Pairwise (· < ·)
  nodup : s.upcoming.Nodup → (∀ i ∈ feeds, i ∉ s.upcoming) → t.upcoming.Nodup

theorem release_eq (bar : Nat) (s : Passes) (i : Nat) [Decidable (s.Readied i)] :
    release bar s i = { s with
      waiting := countDown s.waiting i
      current := if s.Readied i ∧ bar < i then insertRising i s.current else s.current
      upcoming := if s.Readied i ∧ ¬ bar < i then s.upcoming ++ [i] else s.upcoming } := by
  have count : (countDown s.waiting i).getD i 0 = s.waiting.getD i 0 - 1 := by
    rw [getD_countDown, if_pos rfl]
  by_cases readied : s.Readied i
  · have test : ((countDown s.waiting i).getD i 0 == 0 && !s.isEmitted i) = true := by
      rw [count, readied.1, readied.2]
      rfl
    by_cases behind : bar < i <;>
      simp only [release, test, readied, behind, if_true, if_false, and_self, not_true_eq_false,
        not_false_eq_true, and_false]
  · have test : ((countDown s.waiting i).getD i 0 == 0 && !s.isEmitted i) = false := by
      rw [count]
      simpa [Readied] using readied
    simp only [release, test, readied, if_false, false_and, Bool.false_eq_true]

theorem released_one (bar : Nat) (s : Passes) (i : Nat) : Released bar [i] s (release bar s i) := by
  classical
  have current : Takes (fun j => s.Readied j ∧ bar < j) [i] s.current
      (if s.Readied i ∧ bar < i then insertRising i s.current else s.current) :=
    takes_one fun _ => mem_insertRising
  have upcoming : Takes (fun j => s.Readied j ∧ ¬ bar < j) [i] s.upcoming
      (if s.Readied i ∧ ¬ bar < i then s.upcoming ++ [i] else s.upcoming) :=
    takes_one fun j => by rw [List.mem_append, List.mem_singleton, or_comm]
  rw [release_eq]
  refine ⟨rfl, rfl, rfl, size_countDown _ _, lowered_one s.waiting i, current, upcoming,
    fun rise fresh => ?_, fun nodup fresh => ?_⟩
  · show (if s.Readied i ∧ bar < i then insertRising i s.current else s.current).Pairwise (· < ·)
    split
    · exact insertRising_pairwise rise (fresh i List.mem_cons_self)
    · exact rise
  · show (if s.Readied i ∧ ¬ bar < i then s.upcoming ++ [i] else s.upcoming).Nodup
    split
    · exact List.concat_eq_append ▸ nodup.concat (fresh i List.mem_cons_self)
    · exact nodup

theorem Released.trans {bar i : Nat} {feeds : List Nat} {s t u : Passes} (fresh : i ∉ feeds)
    (first : Released bar [i] s t) (rest : Released bar feeds t u) :
    Released bar (i :: feeds) s u := by
  have lowered : Lowered [i] s.waiting t.waiting := first.waiting
  have readied : ∀ j ∈ feeds, (t.Readied j ↔ s.Readied j) := by
    intro j member
    rw [Readied, Readied, lowered.other fresh member, isEmitted, isEmitted, first.emitted]
  have current : Takes (fun j => s.Readied j ∧ bar < j) [i] s.current t.current := first.mem_current
  have upcoming : Takes (fun j => s.Readied j ∧ ¬ bar < j) [i] s.upcoming t.upcoming :=
    first.mem_upcoming
  refine ⟨rest.emitted.trans first.emitted, rest.order.trans first.order,
    rest.forced.trans first.forced, rest.size_waiting.trans first.size_waiting,
    lowered.cons rest.waiting fresh,
    current.cons rest.mem_current fun j member => and_congr_left' (readied j member),
    upcoming.cons rest.mem_upcoming fun j member => and_congr_left' (readied j member),
    fun rise apart => rest.rising (first.rising rise fun j member => ?_) (current.apart fresh apart),
    fun nodup apart => rest.nodup (first.nodup nodup fun j member => ?_)
      (upcoming.apart fresh apart)⟩
  · exact apart j (List.mem_singleton.1 member ▸ List.mem_cons_self)
  · exact apart j (List.mem_singleton.1 member ▸ List.mem_cons_self)

theorem released_all (bar : Nat) (feeds : List Nat) (nodup : feeds.Nodup) (s : Passes) :
    Released bar feeds s (feeds.foldl (release bar) s) := by
  induction feeds generalizing s with
  | nil =>
      exact ⟨rfl, rfl, rfl, rfl, fun i => by simp, fun i => by simp, fun i => by simp,
        fun rise _ => rise, fun nodup _ => nodup⟩
  | cons i feeds ih =>
      obtain ⟨fresh, rest⟩ := List.nodup_cons.1 nodup
      exact (released_one bar s i).trans fresh (ih rest (release bar s i))

/-! ## What holds between two emissions -/

structure Counted (p : Precedence) (s : Passes) : Prop where
  size_waiting : s.waiting.size = p.size
  size_emitted : s.emitted.size = p.size
  order_nodup : s.order.Nodup
  order_lt : ∀ i ∈ s.order, i < p.size
  emitted_iff : ∀ i, s.isEmitted i = true ↔ i ∈ s.order
  waiting_eq : ∀ i, i < p.size → s.waiting.getD i 0 = p.unmet s.order i

/-- The counts are exact, and the two lists hold the positions that are ready. -/
structure Sound (p : Precedence) (s : Passes) : Prop extends Counted p s where
  queued_iff : ∀ i, i ∈ s.current ∨ i ∈ s.upcoming ↔
    i < p.size ∧ i ∉ s.order ∧ p.unmet s.order i = 0
  apart : ∀ i ∈ s.current, i ∉ s.upcoming
  current_rising : s.current.Pairwise (· < ·)
  upcoming_nodup : s.upcoming.Nodup

variable {p : Precedence} {s : Passes}

theorem sound_start (p : Precedence) : Sound p (start p) where
  size_waiting := by simp [start, size]
  size_emitted := by simp [start]
  order_nodup := List.nodup_nil
  order_lt _ member := nomatch member
  emitted_iff i := by
    by_cases inside : i < p.size <;> simp [start, isEmitted, inside]
  waiting_eq i _ := by
    rw [start, unmet_nil]
    exact getD_map_length p.needs i
  queued_iff i := by simp [start, mem_positions, unmet_nil]
  apart _ member := nomatch member
  current_rising := List.Pairwise.nil
  upcoming_nodup := List.nodup_range.filter _

/-- The next pass begins with everything that is ready. -/
theorem Sound.beginPass (h : Sound p s) (ended : s.current = []) :
    Sound p { s with current := rising s.upcoming, upcoming := [] } :=
  { h with
    queued_iff := fun i => by
      rw [← h.queued_iff i, ended]
      simp [(rising_perm s.upcoming).mem_iff]
    apart := fun _ _ member => nomatch member
    current_rising := rising_pairwise h.upcoming_nodup
    upcoming_nodup := List.nodup_nil }

/-- What an emission does when the lists hold the ready positions but the emitted one. -/
structure Emitted (p : Precedence) (i bar : Nat) (s t : Passes) : Prop where
  sound : Sound p t
  order : t.order = s.order ++ [i]
  forced : t.forced = s.forced
  mem_current : ∀ j ∈ t.current, j ∈ s.current ∨ bar < j
  mem_upcoming : ∀ j ∈ t.upcoming, j ∈ s.upcoming ∨ (¬ bar < j ∧ j ≠ i)

/-- The emission of `i` is about to happen: the lists hold the ready positions but `i`. -/
structure Poised (p : Precedence) (s : Passes) (i : Nat) : Prop extends Counted p s where
  inside : i < p.size
  fresh : i ∉ s.order
  queued_iff : ∀ j, j ∈ s.current ∨ j ∈ s.upcoming ↔
    j ≠ i ∧ j < p.size ∧ j ∉ s.order ∧ p.unmet s.order j = 0
  apart : ∀ j ∈ s.current, j ∉ s.upcoming
  current_rising : s.current.Pairwise (· < ·)
  upcoming_nodup : s.upcoming.Nodup

/-- The state in which `i` is emitted and nothing is released yet. -/
def begun (s : Passes) (i : Nat) : Passes :=
  { s with emitted := s.emitted.setIfInBounds i true, order := s.order ++ [i] }

theorem released_emit (p : Precedence) (s : Passes) (i bar : Nat) :
    Released bar (p.feedsOf i) (s.begun i) (emit p s i bar) :=
  released_all bar (p.feedsOf i) (List.nodup_range.filter _) (s.begun i)

namespace Poised

variable {i : Nat}

theorem isEmitted_begun (h : Poised p s i) (j : Nat) :
    (s.begun i).isEmitted j = true ↔ j ∈ s.order ++ [i] := by
  rw [List.mem_append, List.mem_singleton, ← h.emitted_iff j]
  by_cases same : j = i
  · subst same
    simp [begun, isEmitted, h.size_emitted, h.inside]
  · simp [begun, isEmitted, same, Ne.symm same]

theorem readied_iff (h : Poised p s i) {j : Nat} (fed : j ∈ p.feedsOf i) :
    (s.begun i).Readied j ↔ j ∉ s.order ++ [i] ∧ p.unmet (s.order ++ [i]) j = 0 := by
  have waiting : (s.begun i).waiting.getD j 0 = p.unmet (s.order ++ [i]) j + 1 :=
    (h.waiting_eq j ((mem_feedsOf p j i).1 fed).1).trans (unmet_fed h.fresh fed)
  rw [Readied, waiting, ← h.isEmitted_begun j]
  simp [and_comm]

/-- What `i` feeds has an unmet need, so it is not queued. -/
theorem not_queued (h : Poised p s i) {j : Nat} (fed : j ∈ p.feedsOf i) :
    ¬ (j ∈ s.current ∨ j ∈ s.upcoming) := by
  intro queued
  have zero := ((h.queued_iff j).1 queued).2.2.2
  have := unmet_fed h.fresh fed
  omega

theorem counted (h : Poised p s i) (bar : Nat) : Counted p (emit p s i bar) := by
  have released := released_emit p s i bar
  have order : (emit p s i bar).order = s.order ++ [i] := released.order
  have lowered : Lowered (p.feedsOf i) s.waiting (emit p s i bar).waiting := released.waiting
  exact
    { size_waiting := released.size_waiting.trans h.size_waiting
      size_emitted := by
        rw [released.emitted]
        simp [begun, h.size_emitted]
      order_nodup := order ▸ nodup_snoc h.order_nodup h.fresh
      order_lt := order ▸ lt_size_snoc h.order_lt h.inside
      emitted_iff := fun j => by
        rw [order, isEmitted, released.emitted]
        exact h.isEmitted_begun j
      waiting_eq := order ▸ lowered.exact h.fresh h.waiting_eq }

/-- After the emission the lists hold what is ready then. -/
theorem queued_emit_iff (h : Poised p s i) (bar j : Nat) :
    j ∈ (emit p s i bar).current ∨ j ∈ (emit p s i bar).upcoming ↔
      j < p.size ∧ j ∉ s.order ++ [i] ∧ p.unmet (s.order ++ [i]) j = 0 := by
  have released := released_emit p s i bar
  rw [released.mem_current, released.mem_upcoming, ready_snoc_iff h.fresh, ← h.queued_iff]
  show (j ∈ s.current ∨ _) ∨ (j ∈ s.upcoming ∨ _) ↔ (j ∈ s.current ∨ j ∈ s.upcoming) ∨ _
  rw [or_or_or_comm]
  refine or_congr_right ⟨?_, ?_⟩
  · rintro (⟨fed, readied, -⟩ | ⟨fed, readied, -⟩)
    · exact ⟨fed, (h.readied_iff fed).1 readied⟩
    · exact ⟨fed, (h.readied_iff fed).1 readied⟩
  · rintro ⟨fed, ready⟩
    have readied := (h.readied_iff fed).2 ready
    by_cases behind : bar < j
    · exact Or.inl ⟨fed, readied, behind⟩
    · exact Or.inr ⟨fed, readied, behind⟩

theorem apart_emit (h : Poised p s i) (bar : Nat) :
    ∀ j ∈ (emit p s i bar).current, j ∉ (emit p s i bar).upcoming := by
  have released := released_emit p s i bar
  intro j inCurrent inUpcoming
  rcases (released.mem_current j).1 inCurrent with old | ⟨fed, -, behind⟩
  · rcases (released.mem_upcoming j).1 inUpcoming with old' | ⟨fed, -, -⟩
    · exact h.apart j old old'
    · exact h.not_queued fed (Or.inl old)
  · rcases (released.mem_upcoming j).1 inUpcoming with old | ⟨-, -, before⟩
    · exact h.not_queued fed (Or.inr old)
    · exact before behind

theorem emitted (h : Poised p s i) (bar : Nat) : Emitted p i bar s (emit p s i bar) := by
  have released := released_emit p s i bar
  have order : (emit p s i bar).order = s.order ++ [i] := released.order
  have sound : Sound p (emit p s i bar) :=
    { h.counted bar with
      queued_iff := order ▸ h.queued_emit_iff bar
      apart := h.apart_emit bar
      current_rising := released.rising h.current_rising fun j fed inCurrent =>
        h.not_queued fed (Or.inl inCurrent)
      upcoming_nodup := released.nodup h.upcoming_nodup fun j fed inUpcoming =>
        h.not_queued fed (Or.inr inUpcoming) }
  refine ⟨sound, order, released.forced, fun j member => ?_, fun j member => ?_⟩
  · rcases (released.mem_current j).1 member with old | ⟨-, -, behind⟩
    · exact Or.inl old
    · exact Or.inr behind
  · rcases (released.mem_upcoming j).1 member with old | ⟨fed, readied, before⟩
    · exact Or.inl old
    · refine Or.inr ⟨before, fun same => ?_⟩
      exact ((h.readied_iff fed).1 readied).1 (by simp [same])

end Poised

/-! ## Steps and their number -/

/-- How many steps are left at most: two for every emission, of which a pass that is going
on has had one. -/
def budget (p : Precedence) (s : Passes) : Nat :=
  2 * (p.size - s.order.length) - if s.current = [] then 0 else 1

structure Advances (p : Precedence) (s t : Passes) : Prop where
  unfinished : s.order.length < p.size
  step : t = step p s
  budget : t.budget p < s.budget p

abbrev Steps (p : Precedence) : Passes → Passes → Prop := Reaches (Advances p)

theorem run_of_steps {t : Passes} (steps : Steps p s t) (ended : p.size ≤ t.order.length)
    {fuel : Nat} (enough : s.budget p ≤ fuel) : run p fuel s = t := by
  induction steps using Relation.ReflTransGen.head_induction_on generalizing fuel with
  | refl =>
      cases fuel with
      | zero => rfl
      | succ fuel => rw [run, if_neg (Nat.not_lt.2 ended)]
  | head first _ ih =>
      cases fuel with
      | zero => exact absurd first.budget (by omega)
      | succ fuel =>
          have less := first.budget
          rw [run, if_pos first.unfinished, ← first.step]
          exact ih (by omega)

/-- The run is over when every position is emitted. -/
theorem Counted.all_emitted (h : Counted p s) (ended : ¬ s.order.length < p.size) :
    ∀ i ∈ p.positions, i ∈ s.order := fun _ member =>
  mem_of_size_le_length h.order_nodup h.order_lt (Nat.le_of_not_lt ended) (mem_positions.1 member)

theorem Counted.length_lt (h : Counted p s) {i : Nat} (inside : i < p.size) (fresh : i ∉ s.order) :
    s.order.length < p.size := by
  by_contra ended
  exact fresh (h.all_emitted ended i (mem_positions.2 inside))

/-- An emission of the head of the current list. -/
theorem Sound.emitHead (h : Sound p s) {i : Nat} {rest : List Nat} (head : s.current = i :: rest) :
    Ready p.Waits p.positions s.order i ∧ i < p.size ∧ i ∉ s.order ∧
      Emitted p i i { s with current := rest } (step p s) ∧ Advances p s (step p s) := by
  obtain ⟨inside, fresh, zero⟩ := (h.queued_iff i).1 (Or.inl (head ▸ List.mem_cons_self))
  have rise := h.current_rising
  rw [head] at rise
  obtain ⟨below, restRising⟩ := List.pairwise_cons.1 rise
  have stepEq : step p s = emit p { s with current := rest } i i := by
    rw [step, head]
  have tailMember : ∀ j ∈ rest, j ∈ s.current := fun j member => head ▸ List.mem_cons_of_mem i member
  have poised : Poised p { s with current := rest } i :=
    { h.toCounted with
      inside := inside
      fresh := fresh
      queued_iff := fun j => by
        have split := h.queued_iff j
        rw [head, List.mem_cons] at split
        by_cases same : j = i
        · subst same
          have notLater : j ∉ rest := fun member => Nat.lt_irrefl j (below j member)
          have notNext : j ∉ s.upcoming := h.apart j (head ▸ List.mem_cons_self)
          simp [notLater, notNext]
        · simp only [same, false_or] at split
          simpa [same] using split
      apart := fun j member => h.apart j (tailMember j member)
      current_rising := restRising
      upcoming_nodup := h.upcoming_nodup }
  have emitted : Emitted p i i { s with current := rest } (step p s) := stepEq ▸ poised.emitted i
  refine ⟨ready_iff.2 zero, inside, fresh, emitted, h.toCounted.length_lt inside fresh, rfl, ?_⟩
  have grown := congrArg List.length emitted.order
  have room := h.toCounted.length_lt inside fresh
  rw [List.length_append, List.length_singleton] at grown
  simp only [budget, head, reduceCtorEq, if_false]
  have : (step p s).order.length = s.order.length + 1 := grown
  split <;> omega

/-- **A counted pass is a plain pass.**  The plain pass has come to position `i`: the current
list holds the ready positions from there on, the other list those before. -/
theorem pass_steps (k : Nat) : ∀ (i : Nat) {s : Passes}, i + k = p.size → Sound p s →
    (∀ j ∈ s.current, i ≤ j) → (∀ j ∈ s.upcoming, j < i) →
    ∃ t, Steps p s t ∧ Sound p t ∧ t.current = [] ∧ t.forced = s.forced ∧
      Sweep p.Waits p.positions (List.range' i k) s.order t.order := by
  induction k with
  | zero =>
      intro i s reach h current upcoming
      have ended : s.current = [] := by
        rw [List.eq_nil_iff_forall_not_mem]
        intro j member
        have inside := ((h.queued_iff j).1 (Or.inl member)).1
        have := current j member
        omega
      exact ⟨s, .refl, h, ended, rfl, .done _⟩
  | succ k ih =>
      intro i s reach h current upcoming
      rw [List.range'_succ]
      by_cases member : i ∈ s.current
      · -- The position is ready, and nothing before it is left in the current list.
        obtain ⟨j, rest, head⟩ := List.exists_cons_of_ne_nil (List.ne_nil_of_mem member)
        have rise := h.current_rising
        rw [head] at rise member
        obtain ⟨below, -⟩ := List.pairwise_cons.1 rise
        have first : i ≤ j := current j (head ▸ List.mem_cons_self)
        have same : j = i := by
          rcases List.mem_cons.1 member with eq | later
          · exact eq.symm
          · have := below i later
            omega
        subst same
        obtain ⟨ready, -, fresh, emitted, advances⟩ := h.emitHead head
        obtain ⟨t, steps, sound, ended, forced, pass⟩ := ih (j + 1) (by omega) emitted.sound
          (fun l inCurrent => by
            rcases emitted.mem_current l inCurrent with old | behind
            · exact below l old
            · exact behind)
          (fun l inUpcoming => by
            rcases emitted.mem_upcoming l inUpcoming with old | ⟨before, other⟩
            · exact Nat.lt_succ_of_lt (upcoming l old)
            · omega)
        rw [emitted.order] at pass
        exact ⟨t, .head advances steps, sound, ended, forced.trans emitted.forced,
          .emit fresh ready pass⟩
      · obtain ⟨t, steps, sound, ended, forced, pass⟩ := ih (i + 1) (by omega) h
          (fun j inCurrent => by
            have ne : j ≠ i := fun same => member (same ▸ inCurrent)
            have := current j inCurrent
            omega)
          (fun j inUpcoming => Nat.lt_succ_of_lt (upcoming j inUpcoming))
        refine ⟨t, steps, sound, ended, forced, .skip ?_ pass⟩
        by_cases old : i ∈ s.order
        · exact Or.inl old
        · refine Or.inr fun ready => ?_
          rcases (h.queued_iff i).2 ⟨by omega, old, ready_iff.1 ready⟩ with inCurrent | inUpcoming
          · exact member inCurrent
          · exact absurd (upcoming i inUpcoming) (Nat.lt_irrefl i)

/-- The first step of a pass takes what is ready. -/
theorem Sound.beginStep (h : Sound p s) (ended : s.current = []) (waiting : s.upcoming ≠ []) :
    step p s = { s with current := rising s.upcoming, upcoming := [] } ∧
      Advances p s (step p s) := by
  obtain ⟨i, rest, split⟩ := List.exists_cons_of_ne_nil waiting
  have stepEq : step p s = { s with current := rising s.upcoming, upcoming := [] } := by
    rw [step, ended, split]
  obtain ⟨inside, fresh, -⟩ := (h.queued_iff i).1 (Or.inr (split ▸ List.mem_cons_self))
  have room := h.toCounted.length_lt inside fresh
  have some : rising s.upcoming ≠ [] := by
    have member : i ∈ rising s.upcoming :=
      (rising_perm s.upcoming).mem_iff.2 (split ▸ List.mem_cons_self)
    exact List.ne_nil_of_mem member
  refine ⟨stepEq, room, rfl, ?_⟩
  rw [stepEq]
  simp only [budget, ended, some, if_true, if_false]
  omega

theorem mem_blocked (h : Counted p s) {i : Nat} : i ∈ s.blocked p ↔ i < p.size ∧ i ∉ s.order := by
  rw [blocked, List.mem_filter, mem_positions, ← h.emitted_iff i]
  simp

theorem blocks_eq_awaits (h : Counted p s) :
    Blocks p.Waits p.positions s.order = p.Awaits (s.blocked p) := by
  funext i j
  rw [Blocks, Awaits, mem_blocked h, mem_positions]

theorem blocked_ne_nil (h : Counted p s) (unfinished : s.order.length < p.size) :
    s.blocked p ≠ [] := by
  intro none
  have all : p.positions.Subperm s.order := by
    refine List.nodup_range.subperm fun j member => ?_
    by_contra fresh
    have inBlocked := (mem_blocked h).2 ⟨mem_positions.1 member, fresh⟩
    rw [none] at inBlocked
    cases inBlocked
  have length := all.length_le
  rw [length_positions] at length
  omega

/-- When nothing is ready, the earliest knot among the blocked positions is forced out. -/
theorem Sound.forceStep (h : Sound p s) (ended : s.current = []) (idle : s.upcoming = [])
    (unfinished : s.order.length < p.size) :
    ∃ i, First (fun v => v ∉ s.order ∧ Knot (Blocks p.Waits p.positions s.order) v) p.positions i ∧
      Sound p (step p s) ∧ (step p s).current = [] ∧ (step p s).order = s.order ++ [i] ∧
      (step p s).forced.map Forced.position = s.forced.map Forced.position ++ [i] ∧
      Advances p s (step p s) := by
  let i := p.cycleBreaker (s.blocked p)
  let unmet := (p.needsOf i).filter fun j => j != i && !s.isEmitted j
  have nonempty := blocked_ne_nil h.toCounted unfinished
  obtain ⟨member, knot, earliest⟩ :=
    cycleBreaker_spec (fun j inBlocked => ((mem_blocked h.toCounted).1 inBlocked).1) nonempty
  obtain ⟨inside, fresh⟩ := (mem_blocked h.toCounted).1 member
  have stepEq : step p s = emit p { s with forced := s.forced ++ [⟨i, unmet⟩] } i p.size := by
    obtain ⟨waiting, emitted, current, upcoming, order, forced⟩ := s
    subst ended idle
    rfl
  have poised : Poised p { s with forced := s.forced ++ [⟨i, unmet⟩] } i :=
    { h with
      inside := inside
      fresh := fresh
      queued_iff := fun j => by
        show j ∈ s.current ∨ j ∈ s.upcoming ↔ _
        have none := h.queued_iff j
        rw [ended, idle] at none ⊢
        simp only [List.not_mem_nil, or_self, false_iff] at none ⊢
        exact fun ready => none ready.2 }
  have emitted : Emitted p i p.size { s with forced := s.forced ++ [⟨i, unmet⟩] } (step p s) :=
    stepEq ▸ poised.emitted p.size
  refine ⟨i, ?_, emitted.sound, ?_, emitted.order, ?_, unfinished, rfl, ?_⟩
  · rw [blocks_eq_awaits h.toCounted]
    refine first_positions ⟨fresh, knot⟩ inside fun v lt chosen => ?_
    have inBlocked := (mem_blocked h.toCounted).2 ⟨lt.trans inside, chosen.1⟩
    exact absurd (earliest v inBlocked chosen.2) (Nat.not_le.2 lt)
  · rw [List.eq_nil_iff_forall_not_mem]
    intro j inCurrent
    rcases emitted.mem_current j inCurrent with old | behind
    · have old : j ∈ s.current := old
      rw [ended] at old
      cases old
    · have := ((emitted.sound.queued_iff j).1 (Or.inl inCurrent)).1
      omega
  · rw [emitted.forced]
    simp
  · have grown := congrArg List.length emitted.order
    rw [List.length_append, List.length_singleton] at grown
    have : (step p s).order.length = s.order.length + 1 := grown
    simp only [budget, ended, if_true]
    omega

/-- From a state between two passes, the run ends as repeated passes do. -/
theorem sweeps_of_sound (n : Nat) : ∀ {s : Passes}, p.size - s.order.length = n → Sound p s →
    s.current = [] → ∃ t, Steps p s t ∧ p.size ≤ t.order.length ∧
      Sweeps p.Waits p.positions s.order (s.forced.map Forced.position) t.order
        (t.forced.map Forced.position) := by
  induction n using Nat.strong_induction_on with
  | _ n ih =>
      intro s left h ended
      by_cases unfinished : s.order.length < p.size
      · by_cases waiting : s.upcoming = []
        · obtain ⟨i, first, sound, still, order, forced, advances⟩ :=
            h.forceStep ended waiting unfinished
          have less : p.size - (step p s).order.length < n := by
            rw [order, List.length_append, List.length_singleton]
            omega
          obtain ⟨t, steps, all, rest⟩ := ih _ less rfl sound still
          rw [order, forced] at rest
          refine ⟨t, .head advances steps, all, .force (.of_idle fun j member => ?_) first rest⟩
          by_cases old : j ∈ s.order
          · exact Or.inl old
          · refine Or.inr fun ready => ?_
            have queued := (h.queued_iff j).2 ⟨mem_positions.1 member, old, ready_iff.1 ready⟩
            rw [ended, waiting] at queued
            simp at queued
        · obtain ⟨stepEq, advances⟩ := h.beginStep ended waiting
          obtain ⟨t, steps, sound, still, forced, pass⟩ :=
            pass_steps p.size 0 (Nat.zero_add _) (h.beginPass ended) (fun _ _ => Nat.zero_le _)
              (fun _ member => nomatch member)
          rw [← List.range_eq_range'] at pass
          have moved : t.order ≠ s.order := by
            intro same
            obtain ⟨i, member⟩ := List.exists_mem_of_ne_nil _ waiting
            obtain ⟨inside, fresh, zero⟩ := (h.queued_iff i).1 (Or.inr member)
            have idle : Sweep p.Waits p.positions p.positions s.order s.order := by
              have pass : Sweep p.Waits p.positions (List.range p.size) s.order t.order := pass
              rwa [same] at pass
            rcases idle.idle i (mem_positions.2 inside) with old | notReady
            · exact fresh old
            · exact notReady (ready_iff.2 zero)
          have longer : s.order.length < t.order.length := by
            have pre : s.order <+: t.order := pass.isPrefix
            refine Nat.lt_of_le_of_ne pre.length_le fun same => ?_
            exact moved (pre.eq_of_length same).symm
          obtain ⟨u, rest, all, sweeps⟩ := ih _ (by omega) rfl sound still
          rw [forced] at sweeps
          rw [← stepEq] at steps
          exact ⟨u, .head advances (steps.trans rest), all, .sweep pass moved sweeps⟩
      · refine ⟨s, .refl, Nat.le_of_not_lt unfinished, .finished ?_⟩
        exact h.all_emitted unfinished

end Passes

/-- **The counted passes are repeated passes.** -/
theorem passes_sweeps (p : Precedence) :
    Sweeps p.Waits p.positions [] [] p.passes.order (p.passes.forced.map Forced.position) := by
  obtain ⟨t, steps, ended, sweeps⟩ :=
    Passes.sweeps_of_sound _ rfl (Passes.sound_start p) rfl
  have budget : (Passes.start p).budget p ≤ 2 * p.size := by
    simp only [Passes.budget, Passes.start]
    omega
  rw [passes, Passes.run_of_steps steps ended budget]
  exact sweeps

end Marking.Precedence
