/-
# Marking.Scanner -- sources of declarations

A scanner answers which declarations of one kind carry a marker and lie in a scope.  Anything that
answers is one: a scanner may remember what it was asked, fail, and return declarations that do
not fit the question (`Scanner`).

Three scanners select from a list of declarations: from a fixed one, from one that is made anew at
every question, and from what modules hold.
-/
import Marking.Codebase.Scan

set_option autoImplicit false

namespace Marking

/-- A declaration that is not made yet. -/
structure Draft where
  kind : ElementKind
  owner : Value
  name : String
  markers : List Marker

namespace Draft

def make (d : Draft) : Except Fault Declaration :=
  Declaration.make d.kind d.owner d.name d.markers

/-- Makes several declarations, up to the first that cannot be made. -/
def makeAll : List Draft → Except Fault (List Declaration)
  | [] => .ok []
  | d :: ds => d.make.bind fun x => (makeAll ds).map (x :: ·)

end Draft

/-- Anything that can be asked for declarations, any number of times. -/
structure Scanner where
  /-- What the scanner remembers from one question to the next. -/
  {Memory : Type}
  memory : Memory
  /-- The answer to a question about a marker type, a kind and a scope, what is remembered of it,
  and what is noted. -/
  ask : Memory → MarkerType → ElementKind → List String →
    Except Fault (List Declaration) × Memory × Journal

namespace Scanner

/-- Asks for the declarations of one kind that carry a marker and lie in the scope. -/
def query (s : Scanner) (t : MarkerType) (kind : ElementKind) (packages : List String) :
    Except Fault (List Declaration) × Scanner × Journal :=
  let (found, memory, notes) := s.ask s.memory t kind packages
  (found, { s with memory }, notes)

/-- The scanner that selects from the declarations that there are for a scope. -/
def selecting {Memory : Type} (memory : Memory)
    (declarations : Memory → List String → Except Fault (List Declaration) × Memory × Journal) :
    Scanner where
  memory
  ask memory t kind packages :=
    let (ds, memory, notes) := declarations memory packages
    (ds.bind (Declaration.select kind t packages), memory, notes)

/-- Selects from a fixed list. -/
def fixed (declarations : List Declaration) : Scanner :=
  selecting declarations fun ds _ => (.ok ds, ds, [])

/-- Makes all declarations at every question, so one that cannot be made spoils it. -/
def deferred (drafts : List Draft) : Scanner :=
  selecting drafts fun drafts _ => (Draft.makeAll drafts, drafts, [])

/-- Selects from what modules hold. -/
def modules (scan : ModuleScan) : Scanner := selecting scan ModuleScan.declarations

theorem query_modules (scan : ModuleScan) (t : MarkerType) (kind : ElementKind)
    (packages : List String) :
    (modules scan).query t kind packages =
      ((scan.declarations packages).1.bind (Declaration.select kind t packages),
        modules (scan.declarations packages).2.1, (scan.declarations packages).2.2) := rfl

end Scanner

end Marking
