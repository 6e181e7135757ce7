/-
# Marking.Proofs.Precedence.Reachability -- walks along a relation

`Reaches r a b` says that a walk along `r` leads from `a` to `b`; the empty walk counts.
A node is a `Knot` when everything that it reaches reaches it back: a walk from it can
always return.  A finite set of nodes that no walk leaves has a knot (`exists_knot`),
which is why an ordering that waits for everything can always be untied.
-/
import Mathlib.Data.Finset.Card
import Mathlib.Data.Finset.Max
import Mathlib.Logic.Relation

set_option autoImplicit false

namespace Marking

variable {β : Type}

/-- A walk along `r` leads from the first node to the second. -/
abbrev Reaches (r : β → β → Prop) : β → β → Prop := Relation.ReflTransGen r

/-- Everything that the node reaches reaches it back. -/
def Knot (r : β → β → Prop) (u : β) : Prop := ∀ v, Reaches r u v → Reaches r v u

theorem Reaches.mem_of_closed {r : β → β → Prop} (inside : β → Prop)
    (closed : ∀ a b, inside a → r a b → inside b) {a b : β} (start : inside a)
    (walk : Reaches r a b) : inside b := by
  induction walk with
  | refl => exact start
  | tail _ edge ih => exact closed _ _ ih edge

/-- Walks stay walks under a map that keeps the steps. -/
theorem Reaches.map {γ : Type} {r : β → β → Prop} {q : γ → γ → Prop} (f : β → γ)
    (step : ∀ a b, r a b → q (f a) (f b)) {a b : β} (walk : Reaches r a b) :
    Reaches q (f a) (f b) :=
  Relation.ReflTransGen.lift f step _ _ walk

/-- Of the nodes that no walk leaves, one with the fewest reachable nodes is a knot. -/
theorem exists_knot {r : β → β → Prop} {nodes : List β}
    (closed : ∀ a b, a ∈ nodes → r a b → b ∈ nodes) (nonempty : nodes ≠ []) :
    ∃ u ∈ nodes, Knot r u := by
  classical
  let reach (u : β) : Finset β := nodes.toFinset.filter (Reaches r u)
  obtain ⟨first, member⟩ := List.exists_mem_of_ne_nil nodes nonempty
  obtain ⟨u, inside, fewest⟩ :=
    Finset.exists_min_image nodes.toFinset (fun u => (reach u).card)
      ⟨first, List.mem_toFinset.2 member⟩
  have uMem : u ∈ nodes := List.mem_toFinset.1 inside
  refine ⟨u, uMem, fun v walk => ?_⟩
  have vMem : v ∈ nodes := Reaches.mem_of_closed (· ∈ nodes) closed uMem walk
  have fewer : reach v ⊆ reach u := by
    intro z member
    have zMem := Finset.mem_filter.1 member
    exact Finset.mem_filter.2 ⟨zMem.1, walk.trans zMem.2⟩
  have same : reach v = reach u :=
    Finset.eq_of_subset_of_card_le fewer (fewest v (List.mem_toFinset.2 vMem))
  have back : u ∈ reach v := by
    rw [same]
    exact Finset.mem_filter.2 ⟨inside, .refl⟩
  exact (Finset.mem_filter.1 back).2

end Marking
