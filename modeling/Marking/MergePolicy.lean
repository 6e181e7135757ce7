/-
# Marking.MergePolicy -- what happens to the needs of a later unit

Two units under one key become one.  A merge policy says whether the needs of the later one count.
-/

set_option autoImplicit false

namespace Marking

/-- What happens to the needs of a later unit under a known key. -/
inductive MergePolicy where
  | union
  | firstWins
  deriving DecidableEq, Repr, Inhabited

namespace MergePolicy

def word : MergePolicy → String
  | union => "union"
  | firstWins => "first_wins"

def name : MergePolicy → String
  | union => "UNION"
  | firstWins => "FIRST_WINS"

def ofWord? : String → Option MergePolicy
  | "union" => some union
  | "first_wins" => some firstWins
  | _ => none

theorem ofWord?_word (p : MergePolicy) : ofWord? p.word = some p := by
  cases p <;> rfl

end MergePolicy

end Marking
