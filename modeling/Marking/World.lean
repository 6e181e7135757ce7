/-
# Marking.World -- what the work of a run reads and changes

A run changes three things beside its own state: the journal, the registry of the
types it has seen, and whatever its handlers keep for themselves.  An action on the
world always leaves a world behind, also when it ends in a fault.
-/
import Marking.TypeRegistry

set_option autoImplicit false

namespace Marking

/-- The journal, the types, and the state `own` of the handlers. -/
structure World (σ : Type) where
  journal : Journal := []
  types : TypeRegistry := {}
  own : σ

namespace World

variable {σ : Type}

def note (w : World σ) (j : Journal) : World σ := { w with journal := w.journal ++ j }

def addType (w : World σ) (v : Value) : Except Fault Unit × World σ :=
  match w.types.addType v with
  | .error f => (.error f, w)
  | .ok (types, notes) => (.ok (), { w with types }.note notes)

def getInjector (w : World σ) (v : Value) : Except Fault TypeRegistry.Handle × World σ :=
  match w.types.getInjector v with
  | .error f => (.error f, w)
  | .ok (h, types, notes) => (.ok h, { w with types }.note notes)

end World

end Marking
