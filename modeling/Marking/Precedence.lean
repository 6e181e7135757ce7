/-
# Marking.Precedence -- positions that wait for other positions

A `Precedence` gives every position from zero up to its size the list of positions
it needs.  Units and their dependencies become one, and so do handlers and their
ordering rules; every ordering in the library is computed on it.  Positions stand
for the order of registration, so "the earliest" is the least.
-/

set_option autoImplicit false

namespace Marking

/-- What every position needs. -/
structure Precedence where
  needs : Array (List Nat)
  /-- Needs come in rising order and without repetition. -/
  needs_rising : ∀ js ∈ needs, js.Pairwise (· < ·)
  /-- Only positions are needed. -/
  needs_within : ∀ js ∈ needs, ∀ j ∈ js, j < needs.size
  deriving Repr, DecidableEq

namespace Precedence

def size (p : Precedence) : Nat := p.needs.size

def positions (p : Precedence) : List Nat := List.range p.size

def needsOf (p : Precedence) (i : Nat) : List Nat := p.needs.getD i []

/-- The positions that need `j`, in rising order. -/
def feedsOf (p : Precedence) (j : Nat) : List Nat :=
  p.positions.filter fun i => (p.needsOf i).contains j

/-- The precedence in which `i` needs exactly the positions `j` with `needed i j`. -/
def ofRelation (size : Nat) (needed : Nat → Nat → Bool) : Precedence where
  needs := ((List.range size).map fun i => (List.range size).filter (needed i)).toArray
  needs_rising js member := by
    obtain ⟨i, -, rfl⟩ : ∃ i, i < size ∧ (List.range size).filter (needed i) = js := by
      simpa using member
    exact List.pairwise_lt_range.filter _
  needs_within js member j mem := by
    obtain ⟨i, -, rfl⟩ : ∃ i, i < size ∧ (List.range size).filter (needed i) = js := by
      simpa using member
    simpa using (List.mem_filter.1 mem).1

theorem mem_feedsOf (p : Precedence) (i j : Nat) :
    i ∈ p.feedsOf j ↔ i < p.size ∧ j ∈ p.needsOf i := by
  simp [feedsOf, positions]

theorem size_ofRelation (size : Nat) (needed : Nat → Nat → Bool) :
    (ofRelation size needed).size = size := by
  simp [ofRelation, Precedence.size]

theorem needsOf_ofRelation (size : Nat) (needed : Nat → Nat → Bool) (i : Nat) (h : i < size) :
    (ofRelation size needed).needsOf i = (List.range size).filter (needed i) := by
  simp [ofRelation, needsOf, Array.getD, h]

theorem needsOf_eq_nil_or_mem (p : Precedence) (i : Nat) :
    p.needsOf i = [] ∨ p.needsOf i ∈ p.needs := by
  by_cases h : i < p.needs.size
  · right
    simp [needsOf, Array.getD, h]
  · left
    simp [needsOf, Array.getD, h]

theorem needsOf_rising (p : Precedence) (i : Nat) : (p.needsOf i).Pairwise (· < ·) := by
  rcases p.needsOf_eq_nil_or_mem i with none | member
  · rw [none]
    exact List.Pairwise.nil
  · exact p.needs_rising _ member

theorem needsOf_nodup (p : Precedence) (i : Nat) : (p.needsOf i).Nodup :=
  (p.needsOf_rising i).imp Nat.ne_of_lt

theorem lt_size_of_mem_needsOf (p : Precedence) {i j : Nat} (need : j ∈ p.needsOf i) :
    j < p.size := by
  rcases p.needsOf_eq_nil_or_mem i with none | member
  · rw [none] at need
    cases need
  · exact p.needs_within _ member j need

def insertRising (x : Nat) : List Nat → List Nat
  | [] => [x]
  | y :: ys => if x ≤ y then x :: y :: ys else y :: insertRising x ys

theorem insertRising_perm (x : Nat) (ys : List Nat) : (insertRising x ys).Perm (x :: ys) := by
  induction ys with
  | nil => exact List.Perm.refl _
  | cons y ys ih =>
      by_cases le : x ≤ y
      · simp [insertRising, le]
      · rw [insertRising, if_neg le]
        exact (ih.cons y).trans (List.Perm.swap x y ys)

theorem mem_insertRising {x y : Nat} {ys : List Nat} : y ∈ insertRising x ys ↔ y = x ∨ y ∈ ys := by
  rw [(insertRising_perm x ys).mem_iff, List.mem_cons]

theorem insertRising_pairwise {x : Nat} {ys : List Nat} (rise : ys.Pairwise (· < ·))
    (fresh : x ∉ ys) : (insertRising x ys).Pairwise (· < ·) := by
  induction ys with
  | nil => simp [insertRising]
  | cons y ys ih =>
      obtain ⟨below, rest⟩ := List.pairwise_cons.1 rise
      rw [List.mem_cons, not_or] at fresh
      by_cases le : x ≤ y
      · rw [insertRising, if_pos le]
        have lt : x < y := Nat.lt_of_le_of_ne le fresh.1
        refine List.pairwise_cons.2 ⟨fun z member => ?_, rise⟩
        rcases List.mem_cons.1 member with rfl | later
        · exact lt
        · exact Nat.lt_trans lt (below z later)
      · rw [insertRising, if_neg le]
        refine List.pairwise_cons.2 ⟨fun z member => ?_, ih rest fresh.2⟩
        rcases mem_insertRising.1 member with rfl | later
        · exact Nat.lt_of_not_le le
        · exact below z later

def rising (xs : List Nat) : List Nat := xs.foldr insertRising []

theorem rising_perm (xs : List Nat) : (rising xs).Perm xs := by
  induction xs with
  | nil => exact List.Perm.refl _
  | cons x xs ih => exact (insertRising_perm x (rising xs)).trans (ih.cons x)

theorem rising_pairwise {xs : List Nat} (nodup : xs.Nodup) : (rising xs).Pairwise (· < ·) := by
  induction xs with
  | nil => exact List.Pairwise.nil
  | cons x xs ih =>
      obtain ⟨fresh, rest⟩ := List.nodup_cons.1 nodup
      exact insertRising_pairwise (ih rest) fun member => fresh ((rising_perm xs).mem_iff.1 member)

def least (xs : List Nat) : Nat := xs.foldl min (xs.headD 0)

/-- One fewer position is waited for at `i`. -/
def countDown (waiting : Array Nat) (i : Nat) : Array Nat :=
  waiting.modify i (· - 1)

@[simp] theorem size_countDown (waiting : Array Nat) (i : Nat) :
    (countDown waiting i).size = waiting.size := by
  simp [countDown]

theorem getD_countDown (waiting : Array Nat) (i j : Nat) :
    (countDown waiting i).getD j 0 =
      if j = i then waiting.getD j 0 - 1 else waiting.getD j 0 := by
  simp only [countDown, Array.getD_eq_getD_getElem?, Array.getElem?_modify]
  by_cases same : j = i
  · subst same
    cases waiting[j]? <;> simp
  · simp [same, Ne.symm same]

end Precedence

end Marking
