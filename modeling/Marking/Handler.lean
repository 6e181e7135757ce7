/-
# Marking.Handler -- the work behind a marker

A handler is asked twice about a declaration: first which units must come before it
(`check`), and later, in the order that follows from the answers, to do its work
(`handle`).  While it is asked the first time it may put the unit under another key.
A handler may read and change the world; what it changed stays changed when it ends
in a fault.
-/
import Marking.Declaration
import Marking.Settings
import Marking.World

set_option autoImplicit false

namespace Marking

/-- The key under which a piece of work joins the units. -/
structure Control where
  /-- The key of the owner. -/
  natural : UnitKey
  key : UnitKey
  deriving DecidableEq, Repr

namespace Control

/-- The work goes under its natural key. -/
def ofKey (k : UnitKey) : Control := ⟨k, k⟩

/-- Puts the work under the key of a value. -/
def masquerade (c : Control) (v : Value) : Except Fault Control :=
  (UnitKey.ofValue v).map fun key => { c with key }

/-- The work goes under another key than its natural one. -/
def isMasquerading (c : Control) : Bool := c.key != c.natural

def expression (c : Control) : String := "DependencyControl(key=" ++ c.key.expression ++ ")"

end Control

/-- The work behind a marker, for handlers that keep a state of type `σ`. -/
structure Handler (σ : Type) where
  /-- The name it was given. -/
  name : String
  /-- The name of its type. -/
  typeName : String
  /-- The handler as messages show it. -/
  expression : String
  /-- Names what must come before a declaration. -/
  check : Context → View → Control → World σ → Except Fault Value × Control × World σ
  /-- Does the work; false says that it is not done. -/
  handle : Context → View → World σ → Except Fault Bool × World σ

end Marking
