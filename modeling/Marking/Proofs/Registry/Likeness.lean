/-
# Marking.Proofs.Registry.Likeness -- registries with like handlers list alike

A registry lists its registrations by the order that its rules demand, which is worked out at
most once.  Two registries with the same rules and like handlers may differ in whether that is
done already: it shows in the notes, and in nothing else (`Likewise.alike`).
-/
import Marking.Proofs.Discovery.Likeness
import Marking.Proofs.Registry.Replay

set_option autoImplicit false

namespace Marking.Registry

variable {σ τ : Type} {R : World σ → World τ → Prop} {r : Registry σ} {r' : Registry τ}

/-- The registrations are of one marker type, with like handlers. -/
structure Registration.Alike (R : World σ → World τ → Prop) (x : Registration σ)
    (y : Registration τ) : Prop where
  marker : x.marker = y.marker
  handler : Handler.Alike R x.handler y.handler

/-- The registries list like registrations, or refuse to for the same reason, and what they note
meanwhile makes no difference. -/
structure Alike (R : World σ → World τ → Prop) (r : Registry σ) (r' : Registry τ) : Prop where
  registrations : Gives (List.Forall₂ (Registration.Alike R)) r.registrations.1 r'.registrations.1
  noted : ∀ {w w'}, R w w' → R (w.note r.registrations.2.2) (w'.note r'.registrations.2.2)

/-- The registries have the same marker types with like handlers and the same rules. -/
structure Likewise (R : World σ → World τ → Prop) (r : Registry σ) (r' : Registry τ) : Prop where
  handlers : List.Forall₂ (fun x y => x.1 = y.1 ∧ Handler.Alike R x.2 y.2) r.handlers r'.handlers
  rules : r.rules = r'.rules

/-! ## The order -/

namespace Likewise

variable (h : Likewise R r r')
include h

theorem registered : r.registered = r'.registered :=
  map_eq_of_forall₂ h.handlers fun _ _ same => same.1

/-- Registries that remember the same work out the same. -/
theorem order (remembered : r.ordering = r'.ordering) :
    r.order.1 = r'.order.1 ∧ r.order.2.2 = r'.order.2.2 := by
  rw [Registry.order, Registry.order, h.registered, h.rules, remembered]
  cases r'.ordering with
  | some o => exact ⟨rfl, rfl⟩
  | none =>
      dsimp only
      cases Ordering.ofRules r'.registered r'.rules with
      | mk result notes => cases result <;> exact ⟨rfl, rfl⟩

theorem ordered : Likewise R r.order.2.1 r'.order.2.1 where
  handlers := by
    rw [order_handlers, order_handlers]
    exact h.handlers
  rules := by rw [order_rules, order_rules, h.rules]

/-! ## Registrations -/

theorem handler? (t : MarkerType) :
    Option.Rel (Handler.Alike R) (r.handler? t) (r'.handler? t) := by
  rw [Registry.handler?, Registry.handler?, lookup, lookup]
  have like := h.handlers
  generalize r.handlers = hs at like ⊢
  generalize r'.handlers = hs' at like ⊢
  induction like with
  | nil => exact .none
  | @cons x y _ _ first _ ih =>
      rw [List.find?_cons, List.find?_cons, first.1]
      cases y.1 == t with
      | true => exact .some first.2
      | false => exact ih

theorem registrationsOf (ts : List MarkerType) :
    Gives (List.Forall₂ (Registration.Alike R)) (r.registrationsOf ts) (r'.registrationsOf ts) := by
  induction ts with
  | nil => exact .ok .nil
  | cons t ts ih =>
      have here := h.handler? t
      rw [Registry.registrationsOf, Registry.registrationsOf, h.rules]
      generalize r.handler? t = a at here ⊢
      generalize r'.handler? t = b at here ⊢
      cases here with
      | none => exact .error _
      | some like =>
          cases lookup r'.rules t with
          | none => exact .error _
          | some rules => exact ih.map fun xs ys rest => .cons ⟨rfl, like⟩ rest

/-- **Registries with like handlers list alike** when they come to the same order. -/
theorem alike (same : r.order.1 = r'.order.1)
    (noted : ∀ {w w'}, R w w' → R (w.note r.order.2.2) (w'.note r'.order.2.2)) : Alike R r r' where
  registrations := by
    rw [r.registrations_of_order.1, r'.registrations_of_order.1, same]
    cases r'.order.1 with
    | error f => exact .error f
    | ok o => exact h.ordered.registrationsOf o.order
  noted worlds := by
    rw [r.registrations_of_order.2, r'.registrations_of_order.2]
    exact noted worlds

end Likewise

/-- A registry lists like itself when its handlers are alike in related worlds. -/
theorem Alike.itself {R : World σ → World σ → Prop} (likeness : World.Likeness R) (r : Registry σ)
    (handlers : ∀ x ∈ r.handlers, Handler.Alike R x.2 x.2) : Alike R r r := by
  have likewise : Likewise R r r :=
    ⟨List.forall₂_same.2 fun x member => ⟨rfl, handlers x member⟩, rfl⟩
  exact likewise.alike rfl (likeness.note _)

/-- Registries with the same registrations list alike in worlds that are not told apart by their
journals. -/
theorem Coherent.alike {R : World σ → World σ → Prop} {r r' : Registry σ}
    {regs : List (Registration σ)} (h : Coherent regs r) (h' : Coherent regs r')
    (blind : ∀ {w w'} (j j' : Journal), R w w' → R (w.note j) (w'.note j'))
    (handlers : ∀ x ∈ regs, Handler.Alike R x.handler x.handler) : Alike R r r' := by
  have likewise : Likewise R r r' := by
    refine ⟨?_, h.rules.trans h'.rules.symm⟩
    rw [h.handlers, h'.handlers, handlersOf]
    refine List.forall₂_map_left_iff.2 (List.forall₂_map_right_iff.2 (List.forall₂_same.2 ?_))
    exact fun x member => ⟨rfl, handlers x member⟩
  exact likewise.alike (h.order.1.trans h'.order.1.symm) fun worlds => blind _ _ worlds

end Marking.Registry
