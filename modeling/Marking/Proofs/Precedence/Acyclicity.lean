/-
# Marking.Proofs.Precedence.Acyclicity -- everything can be emitted unless something waits in a ring

The strict order emits only what waits for nothing that is left, so its places go down along
every wait (`Explains.descends`), and nothing in it waits for itself, directly or over others.
When something is left and nothing of that is ready, each node that is left waits for another
one; a walk along such waits must come back somewhere (`exists_ring`).  So what is left are the
nodes on a ring and those that wait for them (`Explains.left_iff`).
-/
import Marking.Proofs.Precedence.Forcing

set_option autoImplicit false

namespace Marking

variable {β : Type} {waits : β → β → Prop} {nodes order : List β}

/-- Nothing in the order waits for something later in it. -/
theorem Explains.pairwise [DecidableEq β] (h : Explains waits nodes order []) :
    order.Pairwise fun u v => ¬ waits u v := by
  rw [List.pairwise_iff_getElem]
  intro i j iInside jInside lt awaits
  have before := h.idxOf_lt (List.getElem_mem iInside) List.not_mem_nil
    (h.subset _ (List.getElem_mem jInside)) awaits
  rw [h.nodup.idxOf_getElem, h.nodup.idxOf_getElem] at before
  omega

/-- What a node in the order waits for, directly or over others, stands before it. -/
theorem Explains.descends [DecidableEq β] (h : Explains waits nodes order [])
    (known : ∀ u v, waits u v → v ∈ nodes) {u v : β} (inOrder : u ∈ order)
    (walk : Relation.TransGen waits u v) : v ∈ order ∧ order.idxOf v < order.idxOf u := by
  have step : ∀ {a b : β}, a ∈ order → waits a b → b ∈ order ∧ order.idxOf b < order.idxOf a := by
    intro a b aInOrder awaits
    have before := h.idxOf_lt aInOrder List.not_mem_nil (known a b awaits) awaits
    exact ⟨List.idxOf_lt_length_iff.1 (before.trans (List.idxOf_lt_length_of_mem aInOrder)), before⟩
  induction walk with
  | single awaits => exact step inOrder awaits
  | tail _ awaits ih =>
      obtain ⟨bInOrder, before⟩ := step ih.1 awaits
      exact ⟨bInOrder, before.trans ih.2⟩

/-- Nothing in the order waits for itself. -/
theorem Explains.no_ring [DecidableEq β] (h : Explains waits nodes order [])
    (known : ∀ u v, waits u v → v ∈ nodes) {u : β} (inOrder : u ∈ order) :
    ¬ Relation.TransGen waits u u :=
  fun ring => Nat.lt_irrefl _ (h.descends known inOrder ring).2

/-- An order that has everything shows that nothing waits for itself. -/
theorem Explains.acyclic [DecidableEq β] (h : Explains waits nodes order [])
    (all : ∀ u ∈ nodes, u ∈ order) (known : ∀ u v, waits u v → u ∈ nodes ∧ v ∈ nodes) (u : β) :
    ¬ Relation.TransGen waits u u := by
  intro ring
  obtain ⟨v, awaits, -⟩ := Relation.TransGen.head'_iff.1 ring
  exact h.no_ring (fun a b step => (known a b step).2) (all u (known u v awaits).1) ring

/-- When nothing that is left out is ready, a walk from it along what is waited for leads to
something that waits for itself. -/
theorem exists_ring {u : β} (member : u ∈ nodes) (left : u ∉ order)
    (idle : ∀ v ∈ nodes, v ∈ order ∨ ¬ Ready waits nodes order v) :
    ∃ v ∈ nodes, Reaches waits u v ∧ Relation.TransGen waits v v := by
  classical
  let reached := nodes.filter fun v => v ∉ order ∧ Reaches (Blocks waits nodes order) u v
  have mem_reached : ∀ v, v ∈ reached ↔
      v ∈ nodes ∧ v ∉ order ∧ Reaches (Blocks waits nodes order) u v := by
    intro v
    simp [reached]
  have closed : ∀ a b, a ∈ reached → Blocks waits nodes order a b → b ∈ reached :=
    fun a b inside step =>
      (mem_reached b).2 ⟨step.2.1, step.2.2, ((mem_reached a).1 inside).2.2.tail step⟩
  have nonempty : reached ≠ [] := List.ne_nil_of_mem ((mem_reached u).2 ⟨member, left, .refl⟩)
  obtain ⟨v, inReached, knot⟩ := exists_knot closed nonempty
  obtain ⟨vMember, vLeft, walk⟩ := (mem_reached v).1 inReached
  have notReady := (idle v vMember).resolve_left vLeft
  simp only [Ready, not_forall] at notReady
  obtain ⟨x, xMember, awaits, missing⟩ := notReady
  have back : Reaches (Blocks waits nodes order) x v := knot x (.single ⟨awaits, xMember, missing⟩)
  have toWaits : ∀ a b, Blocks waits nodes order a b → waits a b := fun _ _ step => step.1
  exact ⟨v, vMember, walk.map id toWaits, .head' awaits (back.map id toWaits)⟩

/-- **What is left out is what waits, directly or over others, for something on a ring.** -/
theorem Explains.left_iff [DecidableEq β] (h : Explains waits nodes order [])
    (idle : ∀ v ∈ nodes, v ∈ order ∨ ¬ Ready waits nodes order v)
    (known : ∀ u v, waits u v → v ∈ nodes) {u : β} (member : u ∈ nodes) :
    u ∉ order ↔ ∃ v, Reaches waits u v ∧ Relation.TransGen waits v v := by
  constructor
  · intro left
    obtain ⟨v, -, walk, ring⟩ := exists_ring member left idle
    exact ⟨v, walk, ring⟩
  · rintro ⟨v, walk, ring⟩ inOrder
    rcases Relation.reflTransGen_iff_eq_or_transGen.1 walk with rfl | further
    · exact h.no_ring known inOrder ring
    · exact h.no_ring known (h.descends known inOrder further).1 ring

end Marking
