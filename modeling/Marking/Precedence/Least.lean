/-
# Marking.Precedence.Least -- the least order that meets every need

`leastOrder` emits again and again the least position that waits for nothing.  It
counts down, per position, the needs that are not emitted yet, and keeps the ready
positions in rising order.  Positions on a cycle, and those behind one, are never
ready; they are left out of the order and keep a positive count.
-/
import Marking.Precedence

set_option autoImplicit false

namespace Marking.Precedence

structure Countdown where
  waiting : Array Nat
  /-- The positions that wait for nothing, in rising order. -/
  ready : List Nat
  order : List Nat := []

namespace Countdown

def start (p : Precedence) : Countdown where
  waiting := p.needs.map List.length
  ready := p.positions.filter fun i => (p.needsOf i).isEmpty

/-- One need of `i` is met; the last one makes it ready. -/
def release (c : Countdown) (i : Nat) : Countdown :=
  let waiting := countDown c.waiting i
  if waiting.getD i 0 == 0 then { c with waiting, ready := insertRising i c.ready }
  else { c with waiting }

/-- Emits ready positions, at most `fuel` of them. -/
def run (p : Precedence) : (fuel : Nat) → Countdown → Countdown
  | 0, c => c
  | fuel + 1, c =>
    match c.ready with
    | [] => c
    | i :: ready =>
      run p fuel ((p.feedsOf i).foldl release { c with ready, order := c.order ++ [i] })

end Countdown

/-- The countdown when no position is ready any more. -/
def countdown (p : Precedence) : Countdown := (Countdown.start p).run p p.size

/-- Every position after all it needs, the least first where needs allow; nothing
when some need can never be met. -/
def leastOrder? (p : Precedence) : Option (List Nat) :=
  let c := p.countdown
  if c.order.length = p.size then some c.order else none

def stuck (p : Precedence) : List Nat :=
  let c := p.countdown
  p.positions.filter fun i => c.waiting.getD i 0 > 0

end Marking.Precedence
