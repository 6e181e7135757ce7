/-
# Marking.Precedence.Passes -- an order that survives cycles

The order goes in passes.  A pass emits, in rising order, every remaining position
whose needs are all emitted.  When a pass would emit nothing, the earliest position
of a cycle that waits for nothing outside itself is forced out.

The passes are driven by the counts of unmet needs: a position that becomes ready
joins the current pass when it lies behind the position that readied it, and waits
for the next pass otherwise, as does everything readied by a forced position.
-/
import Marking.Precedence.Components

set_option autoImplicit false

namespace Marking.Precedence

/-- A position emitted before all its needs, and the other needs that were unmet. -/
structure Forced where
  position : Nat
  unmet : List Nat
  deriving DecidableEq, Repr

structure Passes where
  waiting : Array Nat
  emitted : Array Bool
  /-- Ready positions of this pass, in rising order. -/
  current : List Nat := []
  /-- Ready positions of the next pass. -/
  upcoming : List Nat
  order : List Nat := []
  forced : List Forced := []

/-- The position to force out of `blocked`: the least member of the first component
that needs nothing blocked outside itself. -/
def cycleBreaker (p : Precedence) (blocked : List Nat) : Nat :=
  let next := fun i => (p.needsOf i).filter blocked.contains
  let ordered := (componentsOf p.size next blocked).mergeSort
    fun a b => decide (least a ≤ least b)
  match ordered.find? fun c => c.all fun i => (next i).all c.contains with
  | some c => least c
  | none => blocked.headD 0

namespace Passes

def start (p : Precedence) : Passes where
  waiting := p.needs.map List.length
  emitted := Array.replicate p.size false
  upcoming := p.positions.filter fun i => (p.needsOf i).isEmpty

def isEmitted (s : Passes) (i : Nat) : Bool := s.emitted.getD i false

/-- One need of `i` is met by a position at `bar`. -/
def release (bar : Nat) (s : Passes) (i : Nat) : Passes :=
  let waiting := countDown s.waiting i
  if waiting.getD i 0 == 0 && !s.isEmitted i then
    if bar < i then { s with waiting, current := insertRising i s.current }
    else { s with waiting, upcoming := s.upcoming ++ [i] }
  else { s with waiting }

/-- Emits `i`; what it readies joins the current pass when it lies behind `bar`. -/
def emit (p : Precedence) (s : Passes) (i bar : Nat) : Passes :=
  (p.feedsOf i).foldl (release bar)
    { s with emitted := s.emitted.setIfInBounds i true, order := s.order ++ [i] }

/-- The positions that are not emitted, in rising order. -/
def blocked (p : Precedence) (s : Passes) : List Nat :=
  p.positions.filter fun i => !s.isEmitted i

def force (p : Precedence) (s : Passes) : Passes :=
  let i := p.cycleBreaker (s.blocked p)
  let unmet := (p.needsOf i).filter fun j => j != i && !s.isEmitted j
  emit p { s with forced := s.forced ++ [⟨i, unmet⟩] } i p.size

/-- One step: emit within the pass, begin the next pass, or force. -/
def step (p : Precedence) (s : Passes) : Passes :=
  match s.current, s.upcoming with
  | i :: current, _ => emit p { s with current } i i
  | [], [] => force p s
  | [], upcoming => { s with current := rising upcoming, upcoming := [] }

/-- Steps until everything is emitted, at most `fuel` steps. -/
def run (p : Precedence) : (fuel : Nat) → Passes → Passes
  | 0, s => s
  | fuel + 1, s => if s.order.length < p.size then run p fuel (step p s) else s

end Passes

/-- Every position once, with what had to be forced.  A beginning of a pass is
followed by an emission, so twice the size bounds the steps. -/
def passes (p : Precedence) : Passes := (Passes.start p).run p (2 * p.size)

end Marking.Precedence
