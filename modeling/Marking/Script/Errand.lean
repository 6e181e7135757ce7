/-
# Marking.Script.Errand -- scripted work for a single entry

An errand is a piece of work with a name, a unit key and outcomes of its own.  Its
outcomes may bring further errands, which join the queue of the same entry; a name
that is known stands for the errand that has it.
-/
import Marking.Script

set_option autoImplicit false

namespace Marking

/-- A scripted piece of work. -/
structure Errand where
  serial : Nat
  name : String
  key : UnitKey
  outcomes : Option Value := none
  gives : Option Value := none

namespace Errand

instance : Work Errand := ⟨Errand.serial, Errand.key⟩

/-- What errands keep. -/
structure Board where
  script : Script.State := {}
  /-- Every errand known by name. -/
  roster : List Errand := []

/-- The errand of a name, or a new one that a dictionary describes. -/
def enroll (b : Board) (v : Value) : Except Fault (Errand × Board) := do
  let name ← (← Script.required v "id").text
  match b.roster.find? fun e => e.name == name with
  | some e => .ok (e, b)
  | none =>
    let key ← UnitKey.ofValue ((Script.member? v "key").getD (.str name))
    let e : Errand :=
      { serial := b.roster.length, name, key
        outcomes := Script.member? v "outcomes"
        gives := Script.member? v "gives" }
    .ok (e, { b with roster := b.roster ++ [e] })

/-- The errands of several descriptions, up to the first without a key. -/
def enrollAll (b : Board) : List Value → Except Fault Unit × List Errand × Board
  | [] => (.ok (), [], b)
  | v :: vs =>
    match enroll b v with
    | .error f => (.error f, [], b)
    | .ok (e, b) =>
      let (result, es, b) := enrollAll b vs
      (result, e :: es, b)

/-- Runs an errand. -/
def process : Entry.Process Board Errand := fun e w =>
  let script := w.own.script.call e.name
  let (ending, script) := Script.play .absent e.name e.outcomes script
  let (enrolled, queued, board) := enrollAll { w.own with script } ending.spawned
  let (result, script) := Script.conclude e.name e.gives
    (enrolled.bind fun () => ending.result) board.script
  (result, queued, { w with own := { board with script } })

end Errand

end Marking
