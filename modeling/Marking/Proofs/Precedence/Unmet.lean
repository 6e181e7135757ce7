/-
# Marking.Proofs.Precedence.Unmet -- how many needs of a position are unmet

Both orderings of positions keep, for every position, the number of its needs that are not
in the order yet.  A position is ready when that number is zero, and an emission lowers it by
one at the positions that it feeds and nowhere else (`Lowered`).  Some of these are then ready
and taken into a queue (`Takes`).  Both are released one after the other, so each relation is
composed from a single release and the rest.
-/
import Mathlib.Data.List.Nodup
import Marking.Precedence
import Marking.Proofs.Precedence.Sweeps

set_option autoImplicit false

namespace Marking

/-! ## Lists by position -/

section ByPosition

variable {β : Type}

theorem map_getD_range (us : List β) (fallback : β) :
    (List.range us.length).map (fun i => us.getD i fallback) = us := by
  refine List.ext_getElem (by simp) fun i inside _ => ?_
  rw [List.length_map, List.length_range] at inside
  simp [inside]

/-- Looking up positions of the list drops none of them. -/
theorem filterMap_getElem?_eq_map (us : List β) (fallback : β) {ps : List Nat}
    (inside : ∀ i ∈ ps, i < us.length) :
    (ps.filterMap fun i => us.toArray[i]?) = ps.map fun i => us.getD i fallback := by
  rw [← List.filterMap_eq_map]
  refine List.filterMap_congr fun i member => ?_
  simp [inside i member]

end ByPosition

namespace Precedence

/-- How many needs of a position are not in the order. -/
def unmet (p : Precedence) (order : List Nat) (i : Nat) : Nat :=
  (p.needsOf i).countP fun j => !order.contains j

theorem unmet_nil (p : Precedence) (i : Nat) : p.unmet [] i = (p.needsOf i).length := by
  simp [unmet]

theorem getD_map_length (needs : Array (List Nat)) (i : Nat) :
    (needs.map List.length).getD i 0 = (needs.getD i []).length := by
  by_cases inside : i < needs.size <;> simp [inside]

theorem unmet_eq_zero_iff {p : Precedence} {order : List Nat} {i : Nat} :
    p.unmet order i = 0 ↔ ∀ j ∈ p.needsOf i, j ∈ order := by
  simp [unmet, List.countP_eq_zero]

theorem countP_snoc {needs order : List Nat} {j : Nat} (nodup : needs.Nodup) (fresh : j ∉ order) :
    needs.countP (fun k => !order.contains k) =
      needs.countP (fun k => !(order ++ [j]).contains k) + if j ∈ needs then 1 else 0 := by
  induction needs with
  | nil => rfl
  | cons k needs ih =>
      obtain ⟨notLater, rest⟩ := List.nodup_cons.1 nodup
      rw [List.countP_cons, List.countP_cons, ih rest]
      by_cases same : k = j
      · subst same
        simp [notLater, fresh]
      · have other : ¬ j = k := fun eq => same eq.symm
        simp only [List.mem_cons, other, false_or, List.contains_append, List.contains_cons,
          List.contains_nil, Bool.or_false, beq_eq_false_iff_ne.2 same]
        omega

/-- An emission meets one need of the positions that it feeds. -/
theorem unmet_snoc {p : Precedence} {order : List Nat} {j : Nat} (fresh : j ∉ order) (i : Nat) :
    p.unmet order i = p.unmet (order ++ [j]) i + if j ∈ p.needsOf i then 1 else 0 :=
  countP_snoc (p.needsOf_nodup i) fresh

section

variable {p : Precedence} {order : List Nat} {i j : Nat}

/-- A position that `i` feeds has one more unmet need before the emission of `i` than after. -/
theorem unmet_fed (fresh : i ∉ order) (fed : j ∈ p.feedsOf i) :
    p.unmet order j = p.unmet (order ++ [i]) j + 1 := by
  rw [unmet_snoc fresh j, if_pos ((mem_feedsOf p j i).1 fed).2]

theorem unmet_unfed (fresh : i ∉ order) (small : j < p.size) (unfed : j ∉ p.feedsOf i) :
    p.unmet order j = p.unmet (order ++ [i]) j := by
  have unneeded : i ∉ p.needsOf j := fun need => unfed ((mem_feedsOf p j i).2 ⟨small, need⟩)
  rw [unmet_snoc fresh j, if_neg unneeded, Nat.add_zero]

/-- What is ready after the emission of `i` was ready before or is readied by it. -/
theorem ready_snoc_iff (fresh : i ∉ order) :
    j < p.size ∧ j ∉ order ++ [i] ∧ p.unmet (order ++ [i]) j = 0 ↔
      (j ≠ i ∧ j < p.size ∧ j ∉ order ∧ p.unmet order j = 0) ∨
        (j ∈ p.feedsOf i ∧ j ∉ order ++ [i] ∧ p.unmet (order ++ [i]) j = 0) := by
  have ordered : j ∉ order ++ [i] ↔ j ∉ order ∧ j ≠ i := by
    rw [List.mem_append, List.mem_singleton, not_or]
  constructor
  · rintro ⟨small, unordered, met⟩
    by_cases fed : j ∈ p.feedsOf i
    · exact Or.inr ⟨fed, unordered, met⟩
    · rw [← unmet_unfed fresh small fed] at met
      exact Or.inl ⟨(ordered.1 unordered).2, small, (ordered.1 unordered).1, met⟩
  · rintro (⟨other, small, unordered, met⟩ | ⟨fed, unordered, met⟩)
    · have lower := unmet_snoc (p := p) fresh j
      exact ⟨small, ordered.2 ⟨unordered, other⟩, by omega⟩
    · exact ⟨((mem_feedsOf p j i).1 fed).1, unordered, met⟩

theorem lt_size_snoc (old : ∀ k ∈ order, k < p.size) (inside : i < p.size) :
    ∀ k ∈ order ++ [i], k < p.size := by
  intro k member
  rcases List.mem_append.1 member with before | last
  · exact old k before
  · exact List.mem_singleton.1 last ▸ inside

theorem nodup_snoc (nodup : order.Nodup) (fresh : i ∉ order) : (order ++ [i]).Nodup :=
  List.concat_eq_append ▸ nodup.concat fresh

end

/-- The first position waits for the second one. -/
abbrev Waits (p : Precedence) (i j : Nat) : Prop := j ∈ p.needsOf i

theorem mem_positions {p : Precedence} {i : Nat} : i ∈ p.positions ↔ i < p.size := by
  simp [positions]

theorem ready_iff {p : Precedence} {order : List Nat} {i : Nat} :
    Ready p.Waits p.positions order i ↔ p.unmet order i = 0 := by
  rw [unmet_eq_zero_iff]
  exact ⟨fun ready j need => ready j (mem_positions.2 (p.lt_size_of_mem_needsOf need)) need,
    fun met j _ need => met j need⟩

theorem length_positions (p : Precedence) : p.positions.length = p.size := List.length_range

/-- An order as long as there are positions holds all of them. -/
theorem mem_of_size_le_length {p : Precedence} {order : List Nat} (nodup : order.Nodup)
    (inside : ∀ i ∈ order, i < p.size) (full : p.size ≤ order.length) {i : Nat}
    (small : i < p.size) : i ∈ order := by
  have subperm : order.Subperm p.positions :=
    nodup.subperm fun j member => mem_positions.2 (inside j member)
  have perm : order.Perm p.positions := by
    refine subperm.perm_of_length_le ?_
    rw [length_positions]
    exact full
  exact perm.mem_iff.2 (mem_positions.2 small)

theorem first_range' {chosen : Nat → Prop} {u : Nat} (is : chosen u) (k : Nat) :
    ∀ i, i ≤ u → u < i + k → (∀ v, i ≤ v → v < u → ¬ chosen v) →
      First chosen (List.range' i k) u := by
  induction k with
  | zero => intro i low high _; omega
  | succ k ih =>
      intro i low high earliest
      rw [List.range'_succ]
      by_cases same : i = u
      · rw [same]
        exact .here is
      · exact .later (earliest i (le_refl i) (by omega))
          (ih (i + 1) (by omega) (by omega) fun v le lt => earliest v (by omega) lt)

/-- The least of the chosen positions is the first of them. -/
theorem first_positions {p : Precedence} {chosen : Nat → Prop} {u : Nat} (is : chosen u)
    (inside : u < p.size) (earliest : ∀ v, v < u → ¬ chosen v) : First chosen p.positions u := by
  rw [positions, List.range_eq_range']
  exact first_range' is p.size 0 (Nat.zero_le u) (by omega) fun v _ => earliest v

/-! ## Releasing positions one after the other -/

/-- One need of every position in `feeds` is met. -/
def Lowered (feeds : List Nat) (before after : Array Nat) : Prop :=
  ∀ i, after.getD i 0 = before.getD i 0 - if i ∈ feeds then 1 else 0

/-- The queue keeps what it held and takes some of the positions in `feeds`. -/
def Takes (taken : Nat → Prop) (feeds before after : List Nat) : Prop :=
  ∀ i, i ∈ after ↔ i ∈ before ∨ (i ∈ feeds ∧ taken i)

theorem lowered_one (counts : Array Nat) (i : Nat) : Lowered [i] counts (countDown counts i) := by
  intro j
  simp only [getD_countDown, List.mem_singleton]
  split <;> rfl

/-- Exact counts stay exact when an emission meets the needs of what it feeds. -/
theorem Lowered.exact {p : Precedence} {order : List Nat} {i : Nat} {before after : Array Nat}
    (h : Lowered (p.feedsOf i) before after) (fresh : i ∉ order)
    (counts : ∀ j, j < p.size → before.getD j 0 = p.unmet order j) :
    ∀ j, j < p.size → after.getD j 0 = p.unmet (order ++ [i]) j := by
  intro j small
  rw [h, counts j small]
  by_cases fed : j ∈ p.feedsOf i
  · rw [if_pos fed, unmet_fed fresh fed, Nat.add_sub_cancel]
  · rw [if_neg fed, unmet_unfed fresh small fed, Nat.sub_zero]

section

variable {i : Nat} {feeds : List Nat}

theorem Lowered.other {before after : Array Nat} (h : Lowered [i] before after) (fresh : i ∉ feeds)
    {j : Nat} (member : j ∈ feeds) : after.getD j 0 = before.getD j 0 := by
  have ne : j ∉ [i] := fun same => fresh (List.mem_singleton.1 same ▸ member)
  rw [h, if_neg ne, Nat.sub_zero]

theorem Lowered.cons {before mid after : Array Nat} (first : Lowered [i] before mid)
    (rest : Lowered feeds mid after) (fresh : i ∉ feeds) :
    Lowered (i :: feeds) before after := by
  intro j
  rw [rest, first]
  by_cases same : j = i
  · subst same
    simp [fresh]
  · simp [same]

variable {taken taken' : Nat → Prop}

theorem takes_one {before more : List Nat} [Decidable (taken i)]
    (added : ∀ j, j ∈ more ↔ j = i ∨ j ∈ before) :
    Takes taken [i] before (if taken i then more else before) := by
  intro j
  rw [List.mem_singleton]
  by_cases takes : taken i
  · rw [if_pos takes, added]
    constructor
    · rintro (rfl | old)
      · exact Or.inr ⟨rfl, takes⟩
      · exact Or.inl old
    · rintro (old | ⟨rfl, -⟩)
      · exact Or.inr old
      · exact Or.inl rfl
  · rw [if_neg takes]
    constructor
    · exact Or.inl
    · rintro (old | ⟨rfl, takes'⟩)
      · exact old
      · exact absurd takes' takes

theorem Takes.cons {before mid after : List Nat} (first : Takes taken [i] before mid)
    (rest : Takes taken' feeds mid after) (same : ∀ j ∈ feeds, taken' j ↔ taken j) :
    Takes taken (i :: feeds) before after := by
  intro j
  rw [rest, first, List.mem_singleton, List.mem_cons]
  constructor
  · rintro ((old | ⟨isFirst, takes⟩) | ⟨member, takes⟩)
    · exact Or.inl old
    · exact Or.inr ⟨Or.inl isFirst, takes⟩
    · exact Or.inr ⟨Or.inr member, (same j member).1 takes⟩
  · rintro (old | ⟨isFirst | member, takes⟩)
    · exact Or.inl (Or.inl old)
    · exact Or.inl (Or.inr ⟨isFirst, takes⟩)
    · exact Or.inr ⟨member, (same j member).2 takes⟩

/-- What is released later is not in the queue yet. -/
theorem Takes.apart {before after : List Nat} (first : Takes taken [i] before after)
    (fresh : i ∉ feeds) (apart : ∀ j ∈ i :: feeds, j ∉ before) : ∀ j ∈ feeds, j ∉ after := by
  intro j member inQueue
  rcases (first j).1 inQueue with old | ⟨same, -⟩
  · exact apart j (List.mem_cons_of_mem i member) old
  · exact fresh (List.mem_singleton.1 same ▸ member)

end

end Precedence

end Marking
