/-
# Marking.Proofs.Precedence.Extensions -- the strict order is the least of all that are allowed

An order is an extension when it has every node once, each after all that it waits for.  Orders
are compared at the first place where they differ, by which node was registered earlier.

Emitting the first ready node again and again makes the least extension (`EarliestFirst.least`).
No exchange of neighbours is needed to see it.  As long as another extension agrees with what is
emitted, the node that it has next is ready too, so it is the one emitted or a later one; and
a later one settles the comparison.

There is a strict order of positions exactly when no position waits for itself, directly or over
others (`leastOrder?_eq_none_iff`).
-/
import Mathlib.Data.List.Lex
import Marking.Proofs.Precedence.Acyclicity
import Marking.Proofs.Precedence.Cycles
import Marking.Proofs.Precedence.Least

set_option autoImplicit false

namespace Marking

variable {β : Type} {waits earlier : β → β → Prop} {nodes emitted order other : List β}

/-! ## Extensions -/

section Definitions

variable (waits earlier : β → β → Prop) (nodes order : List β)

/-- The order has every node, each after all nodes that it waits for. -/
structure IsExtension : Prop where
  perm : order.Perm nodes
  placed : ∀ before u after, order = before ++ u :: after →
    ∀ v ∈ nodes, waits u v → v ∈ before

/-- Every other extension has a later node at the first place where it differs. -/
structure IsLeastExtension : Prop extends IsExtension waits nodes order where
  least : ∀ other, IsExtension waits nodes other → order = other ∨ List.Lex earlier order other

end Definitions

/-- An order with everything in it, in which nothing had to be forced, is an extension. -/
theorem Explains.isExtension (h : Explains waits nodes order []) (all : ∀ u ∈ nodes, u ∈ order)
    (nodup : nodes.Nodup) : IsExtension waits nodes order where
  perm := (List.perm_ext_iff_of_nodup h.nodup nodup).2 fun u => ⟨h.subset u, all u⟩
  placed before u after split := by
    rcases h.placed before u after split with ⟨-, ready⟩ | ⟨forced, -⟩
    · exact ready
    · cases forced

/-- There is only one least extension. -/
theorem IsLeastExtension.unique (asymm : ∀ u v, earlier u v → ¬ earlier v u)
    (h : IsLeastExtension waits earlier nodes order)
    (h' : IsLeastExtension waits earlier nodes other) : order = other := by
  rcases h.least other h'.toIsExtension with same | less
  · exact same
  · rcases h'.least order h.toIsExtension with same | less'
    · exact same.symm
    · exact absurd less' (List.lex_asymm (fun {u v} => asymm u v) less)

/-! ## The first ready node -/

/-- The first of the chosen nodes is earlier than any other one. -/
theorem First.eq_or_earlier {chosen : β → Prop} {u v : β} (first : First chosen nodes u)
    (sorted : nodes.Pairwise earlier) (member : v ∈ nodes) (is : chosen v) :
    u = v ∨ earlier u v := by
  induction first with
  | here _ =>
      rcases List.mem_cons.1 member with same | later
      · exact Or.inl same.symm
      · exact Or.inr (List.rel_of_pairwise_cons sorted later)
  | later isNot _ ih =>
      rcases List.mem_cons.1 member with rfl | later
      · exact absurd is isNot
      · exact ih (List.pairwise_cons.1 sorted).2 later

theorem EarliestFirst.isPrefix (h : EarliestFirst waits nodes emitted order) : emitted <+: order := by
  induction h with
  | stuck _ => exact List.prefix_refl _
  | emit _ _ ih => exact (List.prefix_append _ _).trans ih

/-- The next node of an extension that agrees with what is emitted is ready. -/
theorem IsExtension.next (h : IsExtension waits nodes other) (nodup : nodes.Nodup) {v : β}
    {rest : List β} (agree : other = emitted ++ v :: rest) :
    v ∈ nodes ∧ v ∉ emitted ∧ Ready waits nodes emitted v := by
  have distinct : other.Nodup := h.perm.nodup_iff.2 nodup
  refine ⟨h.perm.subset (by simp [agree]), fun early => ?_, h.placed emitted v rest agree⟩
  rw [agree, List.nodup_append] at distinct
  exact distinct.2.2 v early v List.mem_cons_self rfl

/-- **The first ready node again and again makes the least extension.**  The induction is on the
emissions; the other extension agrees with those made so far. -/
theorem EarliestFirst.least (h : EarliestFirst waits nodes emitted order) (nodup : nodes.Nodup)
    (sorted : nodes.Pairwise earlier) (extension : IsExtension waits nodes other)
    (agree : emitted <+: other) : order = other ∨ List.Lex earlier order other := by
  induction h with
  | @stuck emitted idle =>
      obtain ⟨rest, rfl⟩ := agree
      cases rest with
      | nil => exact Or.inl (List.append_nil _).symm
      | cons v rest =>
          obtain ⟨member, fresh, ready⟩ := extension.next nodup rfl
          exact absurd ready ((idle v member).resolve_left fresh)
  | @emit emitted order u first more ih =>
      obtain ⟨uMember, uFresh, -⟩ := first.mem
      obtain ⟨rest, rfl⟩ := agree
      cases rest with
      | nil =>
          rw [List.append_nil] at extension
          exact absurd (extension.perm.mem_iff.2 uMember) uFresh
      | cons v rest =>
          obtain ⟨vMember, vFresh, ready⟩ := extension.next nodup rfl
          rcases first.eq_or_earlier sorted vMember ⟨vFresh, ready⟩ with rfl | before
          · exact ih ⟨rest, by simp⟩
          · -- The orders differ here, whatever comes later.
            obtain ⟨tail, rfl⟩ := more.isPrefix
            right
            rw [List.append_assoc]
            exact List.Lex.append_left _ (.rel before) emitted

/-- When everything was emitted, what was emitted is the least extension. -/
theorem EarliestFirst.isLeastExtension (h : EarliestFirst waits nodes [] order)
    (nodup : nodes.Nodup) (sorted : nodes.Pairwise earlier) (all : ∀ u ∈ nodes, u ∈ order) :
    IsLeastExtension waits earlier nodes order where
  toIsExtension := (h.explains explains_nil).1.isExtension all nodup
  least _ extension := h.least nodup sorted extension List.nil_prefix

/-! ## Strict orders of positions -/

namespace Precedence

/-- **There is no strict order exactly when some position waits for itself.** -/
theorem leastOrder?_eq_none_iff {p : Precedence} :
    p.leastOrder? = none ↔ ∃ i, Relation.TransGen p.Waits i i := by
  obtain ⟨explained, idle⟩ := p.countdown_earliestFirst.explains explains_nil
  cases found : p.leastOrder? with
  | some order =>
      obtain ⟨rfl, all⟩ := leastOrder?_eq_some_iff.1 found
      refine iff_of_false (by simp) ?_
      rintro ⟨i, ring⟩
      exact explained.acyclic all (fun _ _ => Waits.positions) i ring
  | none =>
      refine iff_of_true rfl ?_
      have left : ∃ i ∈ p.positions, i ∉ p.countdown.order := by
        by_contra all
        simp only [not_exists, not_and, not_not] at all
        have whole := leastOrder?_eq_some_iff.2 ⟨rfl, all⟩
        rw [found] at whole
        cases whole
      obtain ⟨i, member, fresh⟩ := left
      obtain ⟨j, -, -, ring⟩ := exists_ring member fresh idle
      exact ⟨j, ring⟩

end Precedence

end Marking
