/-
# Marking.Proofs.World.Beside -- a world with something beside the state of the handlers

To watch a run its world is given a second component, in which a record is kept.  `inner`
forgets the record, `beside` puts one in; learning types and finding injectors touch neither the
record nor the state of the handlers.
-/
import Marking.World

set_option autoImplicit false

namespace Marking.World

variable {σ α : Type}

/-- The world without what is kept beside the state of the handlers. -/
def inner (w : World (σ × α)) : World σ := ⟨w.journal, w.types, w.own.1⟩

/-- The world with something beside the state of the handlers. -/
def beside (w : World σ) (a : α) : World (σ × α) := ⟨w.journal, w.types, (w.own, a)⟩

@[simp] theorem inner_beside (w : World σ) (a : α) : (w.beside a).inner = w := rfl

theorem addType_own (w : World σ) (v : Value) : (w.addType v).2.own = w.own := by
  unfold addType
  cases w.types.addType v <;> rfl

theorem getInjector_own (w : World σ) (v : Value) : (w.getInjector v).2.own = w.own := by
  unfold getInjector
  cases w.types.getInjector v <;> rfl

end Marking.World
