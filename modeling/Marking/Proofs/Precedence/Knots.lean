/-
# Marking.Proofs.Precedence.Knots -- the position that is forced out is the earliest knot

When nothing can be emitted, `cycleBreaker` looks for a component of the blocked positions
that needs nothing blocked outside itself, and takes the least member of the first one.  The
members of such a component are exactly the knots among the blocked positions: whatever they
wait for, directly or not, waits for them.  Some knot always exists, so the search never falls
back on the first blocked position.
-/
import Marking.Precedence.Passes
import Marking.Proofs.Precedence.Components

set_option autoImplicit false

namespace Marking.Precedence

/-! ## The least member of a list -/

theorem foldl_min_le (xs : List Nat) (a : Nat) : xs.foldl min a ≤ a := by
  induction xs generalizing a with
  | nil => exact le_refl _
  | cons x xs ih => exact (ih (min a x)).trans (Nat.min_le_left a x)

theorem foldl_min_le_of_mem {xs : List Nat} {x : Nat} (member : x ∈ xs) (a : Nat) :
    xs.foldl min a ≤ x := by
  induction xs generalizing a with
  | nil => cases member
  | cons y xs ih =>
      rcases List.mem_cons.1 member with rfl | later
      · exact (foldl_min_le xs (min a x)).trans (Nat.min_le_right a x)
      · exact ih later (min a y)

theorem foldl_min_mem (xs : List Nat) (a : Nat) : xs.foldl min a = a ∨ xs.foldl min a ∈ xs := by
  induction xs generalizing a with
  | nil => exact Or.inl rfl
  | cons x xs ih =>
      rcases ih (min a x) with same | later
      · rcases Nat.le_total a x with le | le
        · exact Or.inl (same.trans (Nat.min_eq_left le))
        · exact Or.inr (List.mem_cons.2 (Or.inl (same.trans (Nat.min_eq_right le))))
      · exact Or.inr (List.mem_cons_of_mem x later)

theorem least_le {xs : List Nat} {x : Nat} (member : x ∈ xs) : least xs ≤ x :=
  foldl_min_le_of_mem member _

theorem least_mem {xs : List Nat} (nonempty : xs ≠ []) : least xs ∈ xs := by
  cases xs with
  | nil => exact absurd rfl nonempty
  | cons x xs =>
      rcases foldl_min_mem (x :: xs) x with same | member
      · have head : least (x :: xs) = x := same
        rw [head]
        exact List.mem_cons_self
      · exact member

/-! ## Knots among the blocked positions -/

/-- The first position waits for the second one, which is blocked. -/
def Awaits (p : Precedence) (blocked : List Nat) (i j : Nat) : Prop :=
  j ∈ p.needsOf i ∧ j ∈ blocked

/-- What a position awaits among the blocked ones. -/
def awaited (p : Precedence) (blocked : List Nat) (i : Nat) : List Nat :=
  (p.needsOf i).filter blocked.contains

theorem mem_awaited_iff {p : Precedence} {blocked : List Nat} {i j : Nat} :
    j ∈ p.awaited blocked i ↔ p.Awaits blocked i j := by
  simp [awaited, Awaits]

/-- The component needs nothing blocked outside itself. -/
def isSelfContained (p : Precedence) (blocked c : List Nat) : Bool :=
  c.all fun i => (p.awaited blocked i).all c.contains

theorem isSelfContained_iff {p : Precedence} {blocked c : List Nat} :
    p.isSelfContained blocked c = true ↔ ∀ i ∈ c, ∀ j, p.Awaits blocked i j → j ∈ c := by
  simp [isSelfContained, mem_awaited_iff]

theorem within_awaited {p : Precedence} {blocked : List Nat} (inside : ∀ i ∈ blocked, i < p.size) :
    Within p.size (p.awaited blocked) blocked :=
  ⟨inside, fun _ _ _ member => (mem_awaited_iff.1 member).2⟩

theorem walk_awaited_iff {p : Precedence} {blocked : List Nat} {i j : Nat} :
    Walk (p.awaited blocked) i j ↔ Reaches (p.Awaits blocked) i j :=
  ⟨Reaches.map id fun _ _ => mem_awaited_iff.1, Reaches.map id fun _ _ => mem_awaited_iff.2⟩

/-- The members of a component are knots exactly when it is self-contained. -/
theorem knot_iff_isSelfContained {p : Precedence} {blocked : List Nat} {cs : List (List Nat)}
    (parts : IsPartition (p.awaited blocked) blocked cs) {c : List Nat} (found : c ∈ cs) {u : Nat}
    (member : u ∈ c) : Knot (p.Awaits blocked) u ↔ p.isSelfContained blocked c = true := by
  have together := parts.together c found
  rw [isSelfContained_iff]
  constructor
  · intro knot i inC j awaits
    have there := ((together u member i).1 inC).1.tail (mem_awaited_iff.2 awaits)
    have back := walk_awaited_iff.2 (knot j (walk_awaited_iff.1 there))
    exact (together u member j).2 ⟨there, back⟩
  · intro closed v walk
    have inC : v ∈ c := Reaches.mem_of_closed (· ∈ c) (fun a b inA => closed a inA b) member walk
    exact walk_awaited_iff.1 ((together u member v).1 inC).2

/-- Of the lists in rising order of their least members, the first that passes a test has the
least of all members of lists that pass. -/
theorem least_le_of_find? {cs : List (List Nat)} {test : List Nat → Bool} {c d : List Nat}
    (found : (cs.mergeSort fun a b => decide (least a ≤ least b)).find? test = some c)
    (member : d ∈ cs) (passes : test d = true) : least c ≤ least d := by
  obtain ⟨-, before, after, split, failed⟩ := List.find?_eq_some_iff_append.1 found
  have sorted : (cs.mergeSort fun a b => decide (least a ≤ least b)).Pairwise
      fun a b => decide (least a ≤ least b) = true :=
    List.pairwise_mergeSort (by simpa using fun a b c => Nat.le_trans)
      (by simpa using fun a b => Nat.le_total _ _) cs
  rw [split] at sorted
  have inSorted : d ∈ before ++ c :: after := split ▸ List.mem_mergeSort.2 member
  rcases List.mem_append.1 inSorted with early | late
  · have := failed d early
    rw [passes] at this
    cases this
  · rcases List.mem_cons.1 late with rfl | later
    · exact le_refl _
    · have := List.rel_of_pairwise_cons (List.pairwise_append.1 sorted).2.1 later
      simpa using this

/-- The component that is broken: the first, in the order of their least members, that needs
nothing blocked outside itself. -/
def selfContained? (p : Precedence) (blocked : List Nat) : Option (List Nat) :=
  ((componentsOf p.size (p.awaited blocked) blocked).mergeSort
    fun a b => decide (least a ≤ least b)).find? (p.isSelfContained blocked)

theorem cycleBreaker_eq (p : Precedence) (blocked : List Nat) :
    p.cycleBreaker blocked = ((p.selfContained? blocked).map least).getD (blocked.headD 0) := by
  simp only [cycleBreaker]
  split
  next c found => exact (congrArg (fun o => (Option.map least o).getD (blocked.headD 0)) found).symm
  next found => exact (congrArg (fun o => (Option.map least o).getD (blocked.headD 0)) found).symm

/-- **Among blocked positions there always is a component to break.** -/
theorem exists_selfContained {p : Precedence} {blocked : List Nat}
    (inside : ∀ i ∈ blocked, i < p.size) (nonempty : blocked ≠ []) :
    ∃ c, p.selfContained? blocked = some c ∧ p.cycleBreaker blocked = least c := by
  have parts := componentsOf_isPartition (within_awaited inside)
  obtain ⟨k, kBlocked, knot⟩ :=
    exists_knot (fun a b _ awaits => (awaits : p.Awaits blocked a b).2) nonempty
  obtain ⟨d, dFound, kMember⟩ := List.mem_flatten.1 ((parts.mem_iff k).2 kBlocked)
  have dPasses := (knot_iff_isSelfContained parts dFound kMember).1 knot
  cases found : p.selfContained? blocked with
  | none => exact absurd dPasses (List.find?_eq_none.1 found d (List.mem_mergeSort.2 dFound))
  | some c =>
      refine ⟨c, rfl, ?_⟩
      rw [cycleBreaker_eq, found]
      rfl

/-- **What is forced out is the earliest knot among the blocked positions.** -/
theorem cycleBreaker_spec {p : Precedence} {blocked : List Nat}
    (inside : ∀ i ∈ blocked, i < p.size) (nonempty : blocked ≠ []) :
    p.cycleBreaker blocked ∈ blocked ∧ Knot (p.Awaits blocked) (p.cycleBreaker blocked) ∧
      ∀ v ∈ blocked, Knot (p.Awaits blocked) v → p.cycleBreaker blocked ≤ v := by
  have parts := componentsOf_isPartition (within_awaited inside)
  obtain ⟨c, found, breaks⟩ := exists_selfContained inside nonempty
  rw [selfContained?] at found
  rw [breaks]
  have cFound : c ∈ componentsOf p.size (p.awaited blocked) blocked :=
    List.mem_mergeSort.1 (List.mem_of_find?_eq_some found)
  have inC : least c ∈ c := least_mem (parts.ne_nil c cFound)
  refine ⟨(parts.mem_iff _).1 (List.mem_flatten.2 ⟨c, cFound, inC⟩),
    (knot_iff_isSelfContained parts cFound inC).2 (List.find?_some found),
    fun v vBlocked vKnot => ?_⟩
  obtain ⟨e, eFound, vMember⟩ := List.mem_flatten.1 ((parts.mem_iff v).2 vBlocked)
  have ePasses := (knot_iff_isSelfContained parts eFound vMember).1 vKnot
  exact (least_le_of_find? found eFound ePasses).trans (least_le vMember)

end Marking.Precedence
