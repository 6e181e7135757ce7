/-
# Marking.Journal -- what the engine notes while it works

Every part of the engine that decides something on its own notes it: a record has a
level, the part that speaks, and a message.  Functions that note something return
their records beside their result, in the order in which they were made.
-/

set_option autoImplicit false

namespace Marking

inductive Level where
  | debug
  | warning
  | error
  deriving DecidableEq, Repr

namespace Level

def name : Level → String
  | debug => "DEBUG"
  | warning => "WARNING"
  | error => "ERROR"

def rank : Level → Nat
  | debug => 0
  | warning => 1
  | error => 2

end Level

structure Record where
  level : Level
  source : String
  message : String
  deriving DecidableEq, Repr

namespace Record

def text (r : Record) : String :=
  r.level.name ++ " " ++ r.source ++ ": " ++ r.message

def debug (source message : String) : Record := ⟨.debug, source, message⟩

def warning (source message : String) : Record := ⟨.warning, source, message⟩

def error (source message : String) : Record := ⟨.error, source, message⟩

end Record

/-- The records of a run, the latest last. -/
abbrev Journal := List Record

/-- The texts of the records that matter at least as much as `level`. -/
def Journal.texts (level : Level) (j : Journal) : List String :=
  (j.filter fun r => level.rank ≤ r.level.rank).map Record.text

end Marking
