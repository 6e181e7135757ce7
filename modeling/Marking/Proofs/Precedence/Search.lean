/-
# Marking.Proofs.Precedence.Search -- what a depth-first search knows between its steps

A node is unseen, open with a number, or closed.  `Sound path s` is the invariant of the
search for components: `path` lists the nodes that the search stands in, the stack holds the
open nodes with falling numbers, every open node reaches a node of the path that is not above
it, nothing leads out of what is closed, and what is closed is cut into components.

* `Sound.enter`: entering an unseen node that the path reaches keeps the invariant.
* `Sound.retreat`: so does leaving the node on top of the path open, when it reaches an open
  node with a lower number.
* `Sound.close`: so does closing it, when no edge leads from the nodes above it to an open
  node below.  They are its component, since the path leads to them and they lead back to it.
-/
import Mathlib.Data.List.Basic
import Marking.Precedence.Components
import Marking.Proofs.Precedence.Reachability

set_option autoImplicit false

namespace Marking.Precedence

section Graph

variable {β : Type}

/-- The nodes are below the bound, and the edges between them lead nowhere else. -/
structure Within (bound : Nat) (next : Nat → List Nat) (nodes : List Nat) : Prop where
  lt_bound : ∀ x ∈ nodes, x < bound
  next_mem : ∀ x ∈ nodes, ∀ y ∈ next x, y ∈ nodes

abbrev Walk (next : β → List β) (a b : β) : Prop := Reaches (fun x y => y ∈ next x) a b

/-- The lists hold every node once, and two nodes share a list exactly when each
reaches the other. -/
structure IsPartition (next : β → List β) (nodes : List β) (cs : List (List β)) : Prop where
  nodup : cs.flatten.Nodup
  ne_nil : ∀ c ∈ cs, c ≠ []
  mem_iff : ∀ x, x ∈ cs.flatten ↔ x ∈ nodes
  together : ∀ c ∈ cs, ∀ a ∈ c, ∀ b, b ∈ c ↔ Walk next a b ∧ Walk next b a

end Graph

/-! ## Marks -/

namespace Search

def Open (s : Search) (x k : Nat) : Prop := s.markOf x = .active k

def Seen (s : Search) (x : Nat) : Prop := s.markOf x ≠ .unseen

theorem Open.seen {s : Search} {x k : Nat} (h : s.Open x k) : s.Seen x := by
  intro unseen
  rw [Open, unseen] at h
  cases h

theorem Open.unique {s : Search} {x j k : Nat} (hj : s.Open x j) (hk : s.Open x k) : j = k := by
  have same : Mark.active j = Mark.active k := hj.symm.trans hk
  exact Mark.active.inj same

theorem Seen.cases {s : Search} {x : Nat} (h : s.Seen x) :
    (∃ k, s.Open x k) ∨ s.markOf x = .closed := by
  cases mark : s.markOf x with
  | unseen => exact absurd mark h
  | active k => exact Or.inl ⟨k, mark⟩
  | closed => exact Or.inr rfl

@[simp] theorem size_enter (s : Search) (x : Nat) : (s.enter x).marks.size = s.marks.size := by
  simp [enter]

theorem markOf_enter {s : Search} {x : Nat} (bounded : x < s.marks.size) (y : Nat) :
    (s.enter x).markOf y = if y = x then .active s.counter else s.markOf y := by
  by_cases same : y = x
  · subst same
    simp [markOf, enter, bounded]
  · simp [markOf, enter, same, Ne.symm same]

theorem size_closeAll (ys : List Nat) (marks : Array Mark) :
    (ys.foldl (fun marks y => marks.setIfInBounds y .closed) marks).size = marks.size := by
  induction ys generalizing marks with
  | nil => rfl
  | cons y ys ih => rw [List.foldl_cons, ih, Array.size_setIfInBounds]

@[simp] theorem size_close (s : Search) (x : Nat) : (s.close x).marks.size = s.marks.size :=
  size_closeAll _ _

theorem getD_closeAll (ys : List Nat) (marks : Array Mark) (bounded : ∀ y ∈ ys, y < marks.size)
    (z : Nat) :
    (ys.foldl (fun marks y => marks.setIfInBounds y .closed) marks).getD z .unseen =
      if z ∈ ys then .closed else marks.getD z .unseen := by
  induction ys generalizing marks with
  | nil => simp
  | cons y ys ih =>
      have yBound : y < marks.size := bounded y List.mem_cons_self
      rw [List.foldl_cons, ih _ (by simpa using fun a m => bounded a (List.mem_cons_of_mem y m))]
      by_cases later : z ∈ ys
      · simp [later]
      · by_cases same : z = y
        · subst same
          simp [later, yBound]
        · simp [later, same, Ne.symm same]

section Close

variable {s : Search} {x : Nat} {above below : List Nat}

theorem takeWhile_above (stack : s.stack = above ++ x :: below) (fresh : x ∉ above) :
    s.stack.takeWhile (· != x) = above := by
  have passes : ∀ y ∈ above, (y != x) = true := by
    intro y member
    exact bne_iff_ne.2 fun same => fresh (same ▸ member)
  rw [stack, List.takeWhile_append_of_pos passes]
  simp

theorem found_close (stack : s.stack = above ++ x :: below) (fresh : x ∉ above) :
    (s.close x).found = s.found ++ [above ++ [x]] := by
  simp [close, takeWhile_above stack fresh]

theorem stack_close (stack : s.stack = above ++ x :: below) (fresh : x ∉ above) :
    (s.close x).stack = below := by
  have passes : ∀ y ∈ above, (y != x) = true := by
    intro y member
    exact bne_iff_ne.2 fun same => fresh (same ▸ member)
  simp only [close, stack]
  rw [List.dropWhile_append_of_pos passes]
  simp

theorem markOf_close (stack : s.stack = above ++ x :: below) (fresh : x ∉ above)
    (bounded : ∀ y ∈ above ++ [x], y < s.marks.size) (z : Nat) :
    (s.close x).markOf z = if z ∈ above ++ [x] then .closed else s.markOf z := by
  simp only [close, takeWhile_above stack fresh]
  exact getD_closeAll _ _ bounded z

end Close

/-! ## What holds between the steps -/

/-- The state of a search that stands in the nodes of `path`. -/
structure Sound (bound : Nat) (next : Nat → List Nat) (nodes : List Nat) (path : List Nat)
    (s : Search) : Prop where
  size_marks : s.marks.size = bound
  seen_mem : ∀ x, s.Seen x → x ∈ nodes
  mem_stack : ∀ x, x ∈ s.stack ↔ ∃ k, s.Open x k
  lt_counter : ∀ x k, s.Open x k → k < s.counter
  falling : s.stack.Pairwise fun a b => ∀ j k, s.Open a j → s.Open b k → k < j
  closed_iff : ∀ x, s.markOf x = .closed ↔ x ∈ s.found.flatten
  found_nodup : s.found.flatten.Nodup
  found_ne_nil : ∀ c ∈ s.found, c ≠ []
  found_together : ∀ c ∈ s.found, ∀ a ∈ c, ∀ b, b ∈ c ↔ Walk next a b ∧ Walk next b a
  /-- Nothing leads out of what is closed. -/
  closed_next : ∀ a, s.markOf a = .closed → ∀ b ∈ next a, s.markOf b = .closed
  path_open : ∀ g ∈ path, ∃ k, s.Open g k
  /-- A node that was left has met every successor. -/
  seen_next : ∀ a, s.Seen a → a ∉ path → ∀ b ∈ next a, s.Seen b
  /-- A node of the path reaches the open nodes above it. -/
  path_reaches : ∀ g ∈ path, ∀ k, s.Open g k → ∀ y j, s.Open y j → k ≤ j → Walk next g y
  /-- An open node reaches a node of the path below it, or itself. -/
  reaches_path : ∀ y j, s.Open y j → ∃ g ∈ path, ∃ k, s.Open g k ∧ k ≤ j ∧ Walk next y g

/-! ## Entering a node -/

section Enter

variable {bound : Nat} {next : Nat → List Nat} {nodes path : List Nat} {s : Search} {x : Nat}

theorem open_enter_iff (bounded : x < s.marks.size) (unseen : s.markOf x = .unseen) (y k : Nat) :
    (s.enter x).Open y k ↔ (y = x ∧ k = s.counter) ∨ s.Open y k := by
  rw [Open, markOf_enter bounded]
  by_cases same : y = x
  · subst same
    simp [Open, unseen, eq_comm]
  · simp [Open, same]

theorem closed_enter_iff (bounded : x < s.marks.size) (unseen : s.markOf x = .unseen) (y : Nat) :
    (s.enter x).markOf y = .closed ↔ s.markOf y = .closed := by
  rw [markOf_enter bounded]
  by_cases same : y = x
  · subst same
    simp [unseen]
  · simp [same]

theorem seen_enter_iff (bounded : x < s.marks.size) (y : Nat) :
    (s.enter x).Seen y ↔ y = x ∨ s.Seen y := by
  rw [Seen, markOf_enter bounded]
  by_cases same : y = x <;> simp [Seen, same]

theorem Sound.enter (h : Sound bound next nodes path s) (inside : x < bound) (member : x ∈ nodes)
    (unseen : s.markOf x = .unseen) (reached : ∀ g ∈ path, Walk next g x) :
    Sound bound next nodes (x :: path) (s.enter x) := by
  have bounded : x < s.marks.size := by
    rw [h.size_marks]
    exact inside
  have opens := open_enter_iff bounded unseen
  have closes := closed_enter_iff bounded unseen
  have notOpen : ∀ k, ¬ s.Open x k := fun k isOpen => isOpen.seen unseen
  have older : ∀ y k, s.Open y k → k < s.counter := h.lt_counter
  exact
    { size_marks := by rw [size_enter, h.size_marks]
      seen_mem := fun y seen => by
        rcases (seen_enter_iff bounded y).1 seen with rfl | before
        · exact member
        · exact h.seen_mem y before
      mem_stack := fun y => by
        show y ∈ x :: s.stack ↔ _
        simp only [opens, List.mem_cons, h.mem_stack]
        constructor
        · rintro (rfl | ⟨k, isOpen⟩)
          · exact ⟨_, Or.inl ⟨rfl, rfl⟩⟩
          · exact ⟨k, Or.inr isOpen⟩
        · rintro ⟨k, ⟨rfl, -⟩ | isOpen⟩
          · exact Or.inl rfl
          · exact Or.inr ⟨k, isOpen⟩
      lt_counter := fun y k isOpen => by
        show k < s.counter + 1
        rcases (opens y k).1 isOpen with ⟨-, rfl⟩ | before
        · exact Nat.lt_succ_self _
        · exact Nat.lt_succ_of_lt (older y k before)
      falling := by
        refine List.pairwise_cons.2 ⟨fun b inStack j k openX openB => ?_, ?_⟩
        · obtain ⟨i, before⟩ := (h.mem_stack b).1 inStack
          have same : k = i := openB.unique ((opens b i).2 (Or.inr before))
          have number : j = s.counter := openX.unique ((opens x _).2 (Or.inl ⟨rfl, rfl⟩))
          rw [same, number]
          exact older b i before
        · refine h.falling.imp_of_mem fun {a b} inA inB falls j k openA openB => ?_
          obtain ⟨i, beforeA⟩ := (h.mem_stack a).1 inA
          obtain ⟨l, beforeB⟩ := (h.mem_stack b).1 inB
          have sameA : j = i := openA.unique ((opens a i).2 (Or.inr beforeA))
          have sameB : k = l := openB.unique ((opens b l).2 (Or.inr beforeB))
          rw [sameA, sameB]
          exact falls i l beforeA beforeB
      closed_iff := fun y => (closes y).trans (h.closed_iff y)
      found_nodup := h.found_nodup
      found_ne_nil := h.found_ne_nil
      found_together := h.found_together
      closed_next := fun a closed b edge =>
        (closes b).2 (h.closed_next a ((closes a).1 closed) b edge)
      path_open := fun g onPath => by
        rcases List.mem_cons.1 onPath with rfl | before
        · exact ⟨_, (opens g _).2 (Or.inl ⟨rfl, rfl⟩)⟩
        · obtain ⟨k, isOpen⟩ := h.path_open g before
          exact ⟨k, (opens g k).2 (Or.inr isOpen)⟩
      seen_next := fun a seen offPath b edge => by
        rw [List.mem_cons, not_or] at offPath
        rcases (seen_enter_iff bounded a).1 seen with same | before
        · exact absurd same offPath.1
        · exact (seen_enter_iff bounded b).2 (Or.inr (h.seen_next a before offPath.2 b edge))
      path_reaches := fun g onPath k openG y j openY le => by
        rcases (opens y j).1 openY with ⟨rfl, -⟩ | beforeY
        · rcases List.mem_cons.1 onPath with rfl | before
          · exact .refl
          · exact reached g before
        · rcases (opens g k).1 openG with ⟨-, rfl⟩ | beforeG
          · exact absurd (older y j beforeY) (Nat.not_lt.2 le)
          · rcases List.mem_cons.1 onPath with rfl | before
            · exact absurd beforeG (notOpen k)
            · exact h.path_reaches g before k beforeG y j beforeY le
      reaches_path := fun y j openY => by
        rcases (opens y j).1 openY with ⟨rfl, rfl⟩ | beforeY
        · exact ⟨y, List.mem_cons_self, _, openY, le_refl _, .refl⟩
        · obtain ⟨g, onPath, k, openG, le, walk⟩ := h.reaches_path y j beforeY
          exact ⟨g, List.mem_cons_of_mem x onPath, k, (opens g k).2 (Or.inr openG), le, walk⟩ }

end Enter

/-! ## Leaving a node -/

section Leave

variable {bound : Nat} {next : Nat → List Nat} {nodes path : List Nat} {s : Search} {x n : Nat}

/-- The node is open, with the number `n` or a higher one. -/
def Above (s : Search) (n y : Nat) : Prop := ∃ j, s.Open y j ∧ n ≤ j

/-- An open node parts the stack into the higher numbers, itself and the lower numbers. -/
theorem Sound.parted (h : Sound bound next nodes path s) (openX : s.Open x n) :
    ∃ above below, s.stack = above ++ x :: below ∧
      (∀ y ∈ above, ∀ j, s.Open y j → n < j) ∧ ∀ y ∈ below, ∀ j, s.Open y j → j < n := by
  obtain ⟨above, below, stack⟩ := List.append_of_mem ((h.mem_stack x).2 ⟨n, openX⟩)
  have falling := h.falling
  rw [stack, List.pairwise_append, List.pairwise_cons] at falling
  refine ⟨above, below, stack, fun y member j openY => ?_, fun y member j openY => ?_⟩
  · exact falling.2.2 y member x List.mem_cons_self j n openY openX
  · exact falling.2.1.1 y member n j openX openY

/-- What `t` is after the open nodes from the number `n` on were closed in `s`. -/
structure Closing (s : Search) (n : Nat) (t : Search) : Prop where
  size_marks : t.marks.size = s.marks.size
  counter : t.counter = s.counter
  open_iff : ∀ y k, t.Open y k ↔ s.Open y k ∧ k < n
  closed_iff : ∀ y, t.markOf y = .closed ↔ s.Above n y ∨ s.markOf y = .closed
  stack : t.stack.Sublist s.stack
  mem_stack : ∀ y, y ∈ t.stack ↔ ∃ k, t.Open y k
  found : ∃ c, t.found = s.found ++ [c] ∧ c.Nodup ∧ c ≠ [] ∧ ∀ y, y ∈ c ↔ s.Above n y

theorem Closing.seen_iff {t : Search} (c : Closing s n t) (y : Nat) : t.Seen y ↔ s.Seen y := by
  constructor
  · intro seen
    rcases seen.cases with ⟨k, isOpen⟩ | closed
    · exact ((c.open_iff y k).1 isOpen).1.seen
    · rcases (c.closed_iff y).1 closed with ⟨j, openY, -⟩ | closedY
      · exact openY.seen
      · simp [Seen, closedY]
  · intro seen
    rcases seen.cases with ⟨k, isOpen⟩ | closed
    · by_cases low : k < n
      · exact ((c.open_iff y k).2 ⟨isOpen, low⟩).seen
      · simp [Seen, (c.closed_iff y).2 (.inl ⟨k, isOpen, Nat.le_of_not_lt low⟩)]
    · simp [Seen, (c.closed_iff y).2 (.inr closed)]

theorem Sound.closing (w : Within bound next nodes) (h : Sound bound next nodes path s)
    (openX : s.Open x n) : Closing s n (s.close x) := by
  obtain ⟨above, below, stack, higher, lower⟩ := h.parted openX
  have fresh : x ∉ above := fun member => Nat.lt_irrefl n (higher x member n openX)
  have members : ∀ y, y ∈ above ++ [x] ↔ s.Above n y := by
    intro y
    constructor
    · intro member
      rcases List.mem_append.1 member with inAbove | last
      · obtain ⟨j, openY⟩ := (h.mem_stack y).1 (stack ▸ List.mem_append_left _ inAbove)
        exact ⟨j, openY, (higher y inAbove j openY).le⟩
      · rw [List.mem_singleton.1 last]
        exact ⟨n, openX, le_refl n⟩
    · rintro ⟨j, openY, le⟩
      have onStack : y ∈ above ++ x :: below := stack ▸ (h.mem_stack y).2 ⟨j, openY⟩
      rcases List.mem_append.1 onStack with inAbove | rest
      · exact List.mem_append_left _ inAbove
      · rcases List.mem_cons.1 rest with rfl | inBelow
        · simp
        · exact absurd (lower y inBelow j openY) (Nat.not_lt.2 le)
  have sized : ∀ y ∈ above ++ [x], y < s.marks.size := by
    intro y member
    obtain ⟨j, openY, -⟩ := (members y).1 member
    rw [h.size_marks]
    exact w.lt_bound y (h.seen_mem y openY.seen)
  have mark := markOf_close stack fresh sized
  have opens : ∀ y k, (s.close x).Open y k ↔ s.Open y k ∧ k < n := by
    intro y k
    rw [Open, mark y]
    by_cases member : y ∈ above ++ [x]
    · obtain ⟨j, openY, le⟩ := (members y).1 member
      simp only [member, if_true, reduceCtorEq, false_iff, not_and, not_lt]
      exact fun openK => (openY.unique openK) ▸ le
    · simp only [member, if_false]
      exact ⟨fun isOpen => ⟨isOpen, Nat.lt_of_not_le fun le => member ((members y).2 ⟨k, isOpen, le⟩)⟩,
        And.left⟩
  have nodup : above.Nodup := by
    have falling := h.falling
    rw [stack] at falling
    refine (List.pairwise_append.1 falling).1.imp_of_mem fun {a b} inA inB falls same => ?_
    subst same
    obtain ⟨j, openA⟩ := (h.mem_stack a).1 (stack ▸ List.mem_append_left _ inA)
    exact Nat.lt_irrefl j (falls j j openA openA)
  refine ⟨size_close s x, rfl, opens, fun y => ?_, ?_, fun y => ?_,
    above ++ [x], found_close stack fresh, ?_, by simp, members⟩
  · rw [mark y, ← members y]
    by_cases member : y ∈ above ++ [x] <;> simp [member]
  · rw [stack_close stack fresh, stack]
    exact (List.sublist_cons_self x below).trans (List.sublist_append_right above _)
  · rw [stack_close stack fresh]
    simp only [opens]
    constructor
    · intro member
      obtain ⟨k, openY⟩ := (h.mem_stack y).1 (by simp [stack, member])
      exact ⟨k, openY, lower y member k openY⟩
    · rintro ⟨k, openY, lt⟩
      have onStack : y ∈ above ++ x :: below := stack ▸ (h.mem_stack y).2 ⟨k, openY⟩
      rcases List.mem_append.1 onStack with inAbove | rest
      · have := higher y inAbove k openY
        omega
      · rcases List.mem_cons.1 rest with rfl | inBelow
        · exact absurd (openY.unique openX) (Nat.ne_of_lt lt)
        · exact inBelow
  · exact List.nodup_append.2
      ⟨nodup, by simp, fun a inA b last => by
        rw [List.mem_singleton.1 last]
        rintro rfl
        exact fresh inA⟩

/-- A node that reaches an open node with a lower number is left open. -/
theorem Sound.retreat (h : Sound bound next nodes (x :: path) s) (openX : s.Open x n)
    (all : ∀ y ∈ next x, s.Seen y) {z k : Nat} (openZ : s.Open z k) (lt : k < n)
    (walk : Walk next x z) : Sound bound next nodes path s :=
  { h with
    path_open := fun g onPath => h.path_open g (List.mem_cons_of_mem x onPath)
    seen_next := fun a seenA offPath b edge => by
      by_cases same : a = x
      · subst same
        exact all b edge
      · exact h.seen_next a seenA (List.not_mem_cons_of_ne_of_not_mem same offPath) b edge
    path_reaches := fun g onPath => h.path_reaches g (List.mem_cons_of_mem x onPath)
    reaches_path := fun y j openY => by
      obtain ⟨g, onPath, i, openG, le, walkY⟩ := h.reaches_path y j openY
      rcases List.mem_cons.1 onPath with rfl | below
      · -- `y` reaches `x`, `x` reaches `z`, and that one reaches the path below.
        obtain ⟨g', onPath', i', openG', le', walkZ⟩ := h.reaches_path z k openZ
        have number : i = n := openG.unique openX
        rcases List.mem_cons.1 onPath' with rfl | below'
        · have number' : i' = n := openG'.unique openX
          omega
        · exact ⟨g', below', i', openG', by omega, (walkY.trans walk).trans walkZ⟩
      · exact ⟨g, below, i, openG, le, walkY⟩ }

section Close

variable (h : Sound bound next nodes (x :: path) s) (openX : s.Open x n)
  (lower : ∀ g ∈ path, ∀ k, s.Open g k → k < n)

include h openX lower

/-- The nodes above the top of the path and this top reach each other. -/
theorem Sound.round {y : Nat} (above : s.Above n y) : Walk next x y ∧ Walk next y x := by
  obtain ⟨j, openY, le⟩ := above
  refine ⟨h.path_reaches x List.mem_cons_self n openX y j openY le, ?_⟩
  obtain ⟨g, onPath, k, openG, -, walk⟩ := h.reaches_path y j openY
  rcases List.mem_cons.1 onPath with rfl | below
  · exact walk
  · exact walk.trans (h.path_reaches g onPath k openG x n openX (lower g below k openG).le)

variable (all : ∀ y ∈ next x, s.Seen y)
  (inward : ∀ a, s.Above n a → ∀ b ∈ next a, ∀ j, s.Open b j → n ≤ j)

include all inward

/-- Edges from the nodes above stay there or lead to what is closed. -/
theorem Sound.exits {a b : Nat} (above : s.Above n a) (edge : b ∈ next a) :
    s.Above n b ∨ s.markOf b = .closed := by
  have seenB : s.Seen b := by
    by_cases same : a = x
    · subst same
      exact all b edge
    · obtain ⟨i, openA, le⟩ := above
      refine h.seen_next a openA.seen (List.not_mem_cons_of_ne_of_not_mem same fun onPath => ?_) b edge
      exact absurd (lower a onPath i openA) (Nat.not_lt.2 le)
  rcases seenB.cases with ⟨j, openB⟩ | closed
  · exact Or.inl ⟨j, openB, inward a above b edge j openB⟩
  · exact Or.inr closed

/-- The nodes above are a component. -/
theorem Sound.together {a : Nat} (above : s.Above n a) (b : Nat) :
    s.Above n b ↔ Walk next a b ∧ Walk next b a := by
  constructor
  · intro aboveB
    have toA := h.round openX lower above
    have toB := h.round openX lower aboveB
    exact ⟨toA.2.trans toB.1, toB.2.trans toA.1⟩
  · rintro ⟨there, back⟩
    have inside : s.Above n b ∨ s.markOf b = .closed := by
      refine Reaches.mem_of_closed (fun z => s.Above n z ∨ s.markOf z = .closed)
        (fun c d hc edge => ?_) (Or.inl above) there
      rcases hc with aboveC | closed
      · exact h.exits openX lower all inward aboveC edge
      · exact Or.inr (h.closed_next c closed d edge)
    rcases inside with aboveB | closed
    · exact aboveB
    · -- A closed node never leads back to an open one.
      have closedA : s.markOf a = .closed :=
        Reaches.mem_of_closed (fun z => s.markOf z = .closed)
          (fun c d hc edge => h.closed_next c hc d edge) closed back
      obtain ⟨i, openA, -⟩ := above
      rw [Open, closedA] at openA
      cases openA

/-- The top of the path is closed with all above it when no edge leads further down. -/
theorem Sound.close (w : Within bound next nodes) : Sound bound next nodes path (s.close x) := by
  have c := h.closing w openX
  obtain ⟨comp, found, nodup, nonempty, members⟩ := c.found
  have stays : ∀ g ∈ path, ∀ k, s.Open g k → (s.close x).Open g k := fun g onPath k openG =>
    (c.open_iff g k).2 ⟨openG, lower g onPath k openG⟩
  have older : ∀ {y k}, (s.close x).Open y k → s.Open y k := fun openY => ((c.open_iff _ _).1 openY).1
  have closedNext : ∀ a, (s.close x).markOf a = .closed → ∀ b ∈ next a,
      (s.close x).markOf b = .closed := by
    intro a closed b edge
    rcases (c.closed_iff a).1 closed with above | closedA
    · exact (c.closed_iff b).2 (h.exits openX lower all inward above edge)
    · exact (c.closed_iff b).2 (Or.inr (h.closed_next a closedA b edge))
  exact
    { size_marks := by rw [c.size_marks, h.size_marks]
      seen_mem := fun y seenY => h.seen_mem y ((c.seen_iff y).1 seenY)
      mem_stack := c.mem_stack
      lt_counter := fun y k isOpen => c.counter ▸ h.lt_counter y k (older isOpen)
      falling := (h.falling.sublist c.stack).imp fun falls j k openA openB =>
        falls j k (older openA) (older openB)
      closed_iff := fun y => by
        rw [c.closed_iff, h.closed_iff, found, List.flatten_append, List.mem_append,
          List.flatten_singleton, members]
        exact or_comm
      found_nodup := by
        rw [found, List.flatten_append, List.flatten_singleton, List.nodup_append]
        refine ⟨h.found_nodup, nodup, fun a inA b inB same => ?_⟩
        subst same
        obtain ⟨j, openA, -⟩ := (members a).1 inB
        rw [Open, (h.closed_iff a).2 inA] at openA
        cases openA
      found_ne_nil := fun d member => by
        rw [found, List.mem_append, List.mem_singleton] at member
        rcases member with old | rfl
        · exact h.found_ne_nil d old
        · exact nonempty
      found_together := fun d member a inA b => by
        rw [found, List.mem_append, List.mem_singleton] at member
        rcases member with old | rfl
        · exact h.found_together d old a inA b
        · rw [members b]
          exact h.together openX lower all inward ((members a).1 inA) b
      closed_next := closedNext
      path_open := fun g onPath => by
        obtain ⟨k, isOpen⟩ := h.path_open g (List.mem_cons_of_mem x onPath)
        exact ⟨k, stays g onPath k isOpen⟩
      seen_next := fun a seenA offPath b edge => by
        by_cases same : a = x
        · subst same
          exact (c.seen_iff b).2 (all b edge)
        · exact (c.seen_iff b).2 (h.seen_next a ((c.seen_iff a).1 seenA)
            (List.not_mem_cons_of_ne_of_not_mem same offPath) b edge)
      path_reaches := fun g onPath k openG y j openY =>
        h.path_reaches g (List.mem_cons_of_mem x onPath) k (older openG) y j (older openY)
      reaches_path := fun y j openY => by
        obtain ⟨openOld, lt⟩ := (c.open_iff y j).1 openY
        obtain ⟨g, onPath, k, openG, le, walk⟩ := h.reaches_path y j openOld
        rcases List.mem_cons.1 onPath with rfl | below
        · have number : k = n := openG.unique openX
          omega
        · exact ⟨g, below, k, stays g below k openG, le, walk⟩ }

end Close

end Leave

end Search

end Marking.Precedence
