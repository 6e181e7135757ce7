/-
# Marking.Precedence.Components -- strongly connected components

A single depth-first search numbers the nodes as it meets them and keeps the open
ones on a stack.  The nodes that it stands in are frames, each with the successors
that are still to be met, so a node goes on where it was left when a successor is
done.  Every open node carries the least number of an open node that it is known to
lead to, and hands it to the node below when it is left.  When that number is its
own, the nodes above it on the stack form a component and are closed.

`cycles` keeps the components that hold a cycle: those with two members or more and
the single nodes that need themselves.
-/
import Marking.Precedence

set_option autoImplicit false

namespace Marking.Precedence

inductive Mark where
  | unseen
  /-- On the stack, with its number. -/
  | active (number : Nat)
  | closed
  deriving DecidableEq, Repr, Inhabited

structure Search where
  counter : Nat := 0
  marks : Array Mark
  stack : List Nat := []
  found : List (List Nat) := []

namespace Search

def markOf (s : Search) (x : Nat) : Mark := s.marks.getD x .unseen

/-- The node gets the next number and goes on the stack. -/
def enter (s : Search) (x : Nat) : Search :=
  { s with
    counter := s.counter + 1
    marks := s.marks.setIfInBounds x (.active s.counter)
    stack := x :: s.stack }

/-- Takes the stack down to `x`, included, as one component. -/
def close (s : Search) (x : Nat) : Search :=
  let component := s.stack.takeWhile (· != x) ++ [x]
  { s with
    marks := component.foldl (fun marks y => marks.setIfInBounds y .closed) s.marks
    stack := (s.stack.dropWhile (· != x)).drop 1
    found := s.found ++ [component] }

end Search

/-- A node that the search stands in, and its successors that are still to be met. -/
structure Frame where
  node : Nat
  rest : List Nat
  deriving DecidableEq, Repr

structure Traversal where
  search : Search
  /-- The least number of an open node that a node is known to lead to. -/
  lows : Array Nat
  /-- The node that was entered last comes first. -/
  frames : List Frame := []

namespace Traversal

variable (next : Nat → List Nat)

/-- Nothing is seen yet; the nodes are below `bound`. -/
def start (bound : Nat) : Traversal where
  search := { marks := Array.replicate bound .unseen }
  lows := Array.replicate bound 0

def lowOf (t : Traversal) (x : Nat) : Nat := t.lows.getD x 0

/-- The node leads to an open node with the number `k`. -/
def lower (t : Traversal) (x k : Nat) : Traversal :=
  { t with lows := t.lows.modify x (min · k) }

def enter (t : Traversal) (x : Nat) : Traversal where
  search := t.search.enter x
  lows := t.lows.setIfInBounds x t.search.counter
  frames := ⟨x, next x⟩ :: t.frames

/-- What is learnt at `x` from its successor `y`: an unseen one is entered, and a
closed one says nothing. -/
def meet (t : Traversal) (x y : Nat) : Traversal :=
  match t.search.markOf y with
  | .unseen => t.enter next y
  | .active k => t.lower x k
  | .closed => t

/-- The node below learns what is known at `x`. -/
def handDown (t : Traversal) (x : Nat) : Traversal :=
  match t.frames with
  | [] => t
  | f :: _ => t.lower f.node (t.lowOf x)

/-- The component of `x` is closed unless `x` leads below itself on the stack. -/
def settle (t : Traversal) (x : Nat) : Traversal :=
  if t.search.markOf x = .active (t.lowOf x) then { t with search := t.search.close x } else t

/-- Meets one successor, or leaves a node that has none left. -/
def step (t : Traversal) : Traversal :=
  match t.frames with
  | [] => t
  | ⟨x, []⟩ :: below => (handDown { t with frames := below } x).settle x
  | ⟨x, y :: rest⟩ :: below => meet next { t with frames := ⟨x, rest⟩ :: below } x y

/-- Steps until no frame is left, at most `fuel` steps. -/
def run : (fuel : Nat) → Traversal → Traversal
  | 0, t => t
  | fuel + 1, t => if t.frames.isEmpty then t else run fuel (step next t)

def searchFrom (fuel : Nat) (t : Traversal) (root : Nat) : Traversal :=
  match t.search.markOf root with
  | .unseen => run next fuel (t.enter next root)
  | _ => t

end Traversal

/-- The steps that a search on the nodes can take: one to meet every successor and one
to leave every node. -/
def effort (next : Nat → List Nat) (nodes : List Nat) : Nat :=
  (nodes.flatMap next).length + nodes.length

/-- The search from all nodes in turn, all of them below `bound`. -/
def traverse (bound : Nat) (next : Nat → List Nat) (nodes : List Nat) : Traversal :=
  nodes.foldl (Traversal.searchFrom next (effort next nodes)) (Traversal.start bound)

/-- The strongly connected components of the graph on `nodes`, all of them below
`bound`, with the successors `next`. -/
def componentsOf (bound : Nat) (next : Nat → List Nat) (nodes : List Nat) : List (List Nat) :=
  (traverse bound next nodes).search.found

def components (p : Precedence) : List (List Nat) :=
  componentsOf p.size p.needsOf p.positions

/-- The component holds a cycle. -/
def isCyclic (p : Precedence) (component : List Nat) : Bool :=
  component.length > 1 || component.any fun i => (p.needsOf i).contains i

/-- The cycles, each in rising order, by their first members. -/
def cycles (p : Precedence) : List (List Nat) :=
  ((p.components.filter p.isCyclic).map rising).mergeSort
    fun a b => decide (a.headD 0 ≤ b.headD 0)

end Marking.Precedence
