/-
# Marking.Proofs.Precedence.Components -- one search finds the components

`componentsOf` steps through the graph with frames, enters every node once and closes
components on the way back.

* `Traversal.Sound` adds to `Search.Sound` what the frames know: a successor that no frame has
  still to meet was seen; the low number of a node is the number of an open node that it reaches;
  and an edge between open nodes is noticed, at the latest, by the frame it would lead below.
* `Sound.step`: a step keeps this.  A node is closed when its low number is its own; the edges of
  the nodes above it were all noticed by its frame alone, so none of them leads below it.
* `remaining` counts what is still to be met and to be left.  Every step lowers it
  (`remaining_step`), so `run` never lacks fuel (`run_ends`).
* `componentsOf_isPartition`: at the end no frame is left, so everything is closed, and two nodes
  share a component exactly when each reaches the other.
-/
import Marking.Proofs.Precedence.Search

set_option autoImplicit false

namespace Marking.Precedence

namespace Traversal

open Search (Open Seen)

variable {bound : Nat} {next : Nat → List Nat} {nodes : List Nat} {t : Traversal} {x y z n k : Nat}
  {rest : List Nat} {above below : List Frame}

/-! ## Low numbers -/

theorem lowOf_lower (t : Traversal) (x k z : Nat) :
    (t.lower x k).lowOf z = if z = x then min (t.lowOf x) k else t.lowOf z := by
  simp only [lowOf, lower, Array.getD_eq_getD_getElem?, Array.getElem?_modify]
  by_cases same : z = x
  · subst same
    cases t.lows[z]? <;> simp
  · simp [same, Ne.symm same]

theorem lowOf_lower_le (t : Traversal) (x k z : Nat) : (t.lower x k).lowOf z ≤ t.lowOf z := by
  rw [lowOf_lower]
  by_cases same : z = x
  · simp [same]
  · simp [same]

theorem lowOf_enter (bounded : x < t.lows.size) (z : Nat) :
    (t.enter next x).lowOf z = if z = x then t.search.counter else t.lowOf z := by
  by_cases same : z = x
  · subst same
    simp [lowOf, enter, bounded]
  · simp [lowOf, enter, same, Ne.symm same]

/-! ## What holds between the steps -/

def Met (t : Traversal) (a b : Nat) : Prop := ∀ f ∈ t.frames, f.node = a → b ∉ f.rest

structure Sound (bound : Nat) (next : Nat → List Nat) (nodes : List Nat) (t : Traversal) : Prop where
  search : Search.Sound bound next nodes (t.frames.map Frame.node) t.search
  size_lows : t.lows.size = bound
  falling : t.frames.Pairwise fun f g =>
    ∀ j k, t.search.Open f.node j → t.search.Open g.node k → k < j
  rest_next : ∀ f ∈ t.frames, ∀ y ∈ f.rest, y ∈ next f.node
  met_seen : ∀ f ∈ t.frames, ∀ y ∈ next f.node, y ∉ f.rest → t.search.Seen y
  low_le : ∀ f ∈ t.frames, ∀ k, t.search.Open f.node k → t.lowOf f.node ≤ k
  low_reached : ∀ f ∈ t.frames, ∃ z, t.search.Open z (t.lowOf f.node) ∧ Walk next f.node z
  /-- An edge from a node above a frame is known to this frame or to one above it. -/
  noticed : ∀ f ∈ t.frames, ∀ k, t.search.Open f.node k → ∀ a i, t.search.Open a i → k ≤ i →
    ∀ b ∈ next a, t.Met a b → ∀ j, t.search.Open b j →
      ∃ g ∈ t.frames, ∃ l, t.search.Open g.node l ∧ k ≤ l ∧ t.lowOf g.node ≤ j

theorem Sound.frame_open (h : Sound bound next nodes t) {f : Frame} (member : f ∈ t.frames) :
    ∃ k, t.search.Open f.node k :=
  h.search.path_open f.node (List.mem_map_of_mem member)

theorem Sound.seen_of_met (h : Sound bound next nodes t) {a b : Nat} (seen : t.search.Seen a)
    (edge : b ∈ next a) (met : t.Met a b) : t.search.Seen b := by
  by_cases onPath : a ∈ t.frames.map Frame.node
  · obtain ⟨f, member, rfl⟩ := List.mem_map.1 onPath
    exact h.met_seen f member b edge (met f member rfl)
  · exact h.search.seen_next a seen onPath b edge

/-- What reaches the frame on top is reached from all frames. -/
theorem Sound.reaches_top (h : Sound bound next nodes t) {f : Frame}
    (frames : t.frames = f :: below) {g : Frame} (member : g ∈ t.frames) :
    Walk next g.node f.node := by
  have top : f ∈ t.frames := frames ▸ List.mem_cons_self
  obtain ⟨j, openF⟩ := h.frame_open top
  obtain ⟨k, openG⟩ := h.frame_open member
  have le : k ≤ j := by
    rw [frames] at member
    rcases List.mem_cons.1 member with rfl | lower
    · exact (openG.unique openF).le
    · have falling := h.falling
      rw [frames] at falling
      exact (List.rel_of_pairwise_cons falling lower j k openF openG).le
  exact h.search.path_reaches g.node (List.mem_map_of_mem member) k openG f.node j openF le

/-! ## Meeting a successor -/

/-- A frame may learn that its node reaches an open node. -/
theorem Sound.lower (h : Sound bound next nodes t) (openZ : t.search.Open z k)
    (walk : Walk next x z) : Sound bound next nodes (t.lower x k) :=
  { h with
    size_lows := by simpa [Traversal.lower] using h.size_lows
    low_le := fun f member j openF => (lowOf_lower_le t x k f.node).trans (h.low_le f member j openF)
    low_reached := fun f member => by
      obtain ⟨a, openA, walkA⟩ := h.low_reached f member
      rw [lowOf_lower]
      by_cases same : f.node = x
      · rw [if_pos same, ← same]
        rcases Nat.le_total (t.lowOf f.node) k with le | le
        · rw [Nat.min_eq_left le]
          exact ⟨a, openA, walkA⟩
        · rw [Nat.min_eq_right le]
          exact ⟨z, openZ, same ▸ walk⟩
      · rw [if_neg same]
        exact ⟨a, openA, walkA⟩
    noticed := fun f member j openF a i openA le b edge met l openB => by
      obtain ⟨g, gMember, m, openG, gLe, low⟩ :=
        h.noticed f member j openF a i openA le b edge met l openB
      exact ⟨g, gMember, m, openG, gLe, (lowOf_lower_le t x k g.node).trans low⟩ }

/-- A frame is done with a successor that was seen, when it knows its number. -/
theorem Sound.advance (h : Sound bound next nodes t)
    (frames : t.frames = above ++ ⟨x, y :: rest⟩ :: below) (seen : t.search.Seen y)
    (low : ∀ j, t.search.Open y j → t.lowOf x ≤ j) :
    Sound bound next nodes { t with frames := above ++ ⟨x, rest⟩ :: below } := by
  -- Every frame but this one stays, and this one keeps its node.
  have old : ∀ f ∈ above ++ ⟨x, rest⟩ :: below,
      ∃ g ∈ t.frames, g.node = f.node ∧ (f = g ∨ f = ⟨x, rest⟩ ∧ g = ⟨x, y :: rest⟩) := by
    intro f member
    simp only [frames, List.mem_append, List.mem_cons] at member ⊢
    rcases member with inAbove | rfl | inBelow
    · exact ⟨f, .inl inAbove, rfl, .inl rfl⟩
    · exact ⟨⟨x, y :: rest⟩, .inr (.inl rfl), rfl, .inr ⟨rfl, rfl⟩⟩
    · exact ⟨f, .inr (.inr inBelow), rfl, .inl rfl⟩
  have new : ∀ g ∈ t.frames, ∃ f ∈ above ++ ⟨x, rest⟩ :: below, f.node = g.node ∧
      (f = g ∨ f = ⟨x, rest⟩ ∧ g = ⟨x, y :: rest⟩) := by
    intro g member
    simp only [frames, List.mem_append, List.mem_cons] at member ⊢
    rcases member with inAbove | rfl | inBelow
    · exact ⟨g, .inl inAbove, rfl, .inl rfl⟩
    · exact ⟨⟨x, rest⟩, .inr (.inl rfl), rfl, .inr ⟨rfl, rfl⟩⟩
    · exact ⟨g, .inr (.inr inBelow), rfl, .inl rfl⟩
  refine
    { search := by simpa [frames] using h.search
      size_lows := h.size_lows
      falling := ?_
      rest_next := fun f member b inRest => ?_
      met_seen := fun f member b edge done => ?_
      low_le := fun f member k openF => ?_
      low_reached := fun f member => ?_
      noticed := fun f member k openF a i openA le b edge met j openB => ?_ }
  · have falling := h.falling
    rw [frames] at falling
    simpa only [List.pairwise_append, List.pairwise_cons, List.forall_mem_cons] using falling
  · obtain ⟨g, gMember, -, rfl | ⟨rfl, rfl⟩⟩ := old f member
    · exact h.rest_next f gMember b inRest
    · exact h.rest_next _ gMember b (List.mem_cons_of_mem y inRest)
  · obtain ⟨g, gMember, -, rfl | ⟨rfl, rfl⟩⟩ := old f member
    · exact h.met_seen f gMember b edge done
    · by_cases same : b = y
      · exact same ▸ seen
      · exact h.met_seen _ gMember b edge (List.not_mem_cons_of_ne_of_not_mem same done)
  · obtain ⟨g, gMember, node, -⟩ := old f member
    rw [← node] at openF
    exact node ▸ h.low_le g gMember k openF
  · obtain ⟨g, gMember, node, -⟩ := old f member
    exact node ▸ h.low_reached g gMember
  · obtain ⟨g, gMember, node, -⟩ := old f member
    rw [← node] at openF
    by_cases this : a = x ∧ b = y
    · -- This is the edge that has just been met.
      obtain ⟨rfl, rfl⟩ := this
      exact ⟨⟨a, rest⟩, by simp, i, openA, le, low j openB⟩
    · have metOld : t.Met a b := by
        intro f' member' same
        obtain ⟨g', gMember', node', rfl | ⟨rfl, rfl⟩⟩ := new f' member'
        · exact met _ gMember' same
        · exact List.not_mem_cons_of_ne_of_not_mem (fun eq => this ⟨same.symm, eq⟩)
            (met _ gMember' same)
      obtain ⟨g', gMember', l, openG', le', low'⟩ :=
        h.noticed g gMember k openF a i openA le b edge metOld j openB
      obtain ⟨f', member', node', -⟩ := new g' gMember'
      exact ⟨f', member', l, node' ▸ openG', le', node' ▸ low'⟩

/-- Entering an unseen node that all frames reach. -/
theorem Sound.enter (w : Within bound next nodes) (h : Sound bound next nodes t)
    (member : y ∈ nodes) (unseen : t.search.markOf y = .unseen)
    (reached : ∀ f ∈ t.frames, Walk next f.node y) :
    Sound bound next nodes (t.enter next y) := by
  have inside : y < bound := w.lt_bound y member
  have bounded : y < t.search.marks.size := h.search.size_marks ▸ inside
  have opens := Search.open_enter_iff bounded unseen
  have lows : ∀ z, (t.enter next y).lowOf z = if z = y then t.search.counter else t.lowOf z :=
    lowOf_enter (h.size_lows.symm ▸ inside)
  have other : ∀ f ∈ t.frames, f.node ≠ y := by
    rintro f fMember rfl
    obtain ⟨k, openF⟩ := h.frame_open fMember
    exact openF.seen unseen
  have lowOld : ∀ f ∈ t.frames, (t.enter next y).lowOf f.node = t.lowOf f.node := fun f fMember => by
    rw [lows, if_neg (other f fMember)]
  have openOld : ∀ f ∈ t.frames, ∀ k, (t.enter next y).search.Open f.node k →
      t.search.Open f.node k := fun f fMember k openF =>
    ((opens f.node k).1 openF).resolve_left fun new => other f fMember new.1
  have openY : (t.enter next y).search.Open y t.search.counter := (opens y _).2 (.inl ⟨rfl, rfl⟩)
  refine
    { search := h.search.enter inside member unseen fun g onPath => ?_
      size_lows := by simpa [Traversal.enter] using h.size_lows
      falling := List.pairwise_cons.2 ⟨fun g gMember j k openF openG => ?_, ?_⟩
      rest_next := List.forall_mem_cons.2 ⟨fun b edge => edge, h.rest_next⟩
      met_seen := List.forall_mem_cons.2 ⟨fun b edge done => absurd edge done,
        fun f fMember b edge done => ?_⟩
      low_le := List.forall_mem_cons.2 ⟨fun k openF => ?_, fun f fMember k openF => ?_⟩
      low_reached := List.forall_mem_cons.2 ⟨?_, fun f fMember => ?_⟩
      noticed := fun f fMember k openF a i openA le b edge met j openB => ?_ }
  · obtain ⟨f, fMember, rfl⟩ := List.mem_map.1 onPath
    exact reached f fMember
  · rw [openF.unique openY]
    exact h.search.lt_counter g.node k (openOld g gMember k openG)
  · exact h.falling.imp_of_mem fun fMember gMember falls j k openF openG =>
      falls j k (openOld _ fMember j openF) (openOld _ gMember k openG)
  · exact (Search.seen_enter_iff bounded b).2 (.inr (h.met_seen f fMember b edge done))
  · rw [lows, if_pos rfl, openF.unique openY]
  · rw [lowOld f fMember]
    exact h.low_le f fMember k (openOld f fMember k openF)
  · refine ⟨y, ?_, .refl⟩
    rw [lows, if_pos rfl]
    exact openY
  · obtain ⟨z, openZ, walk⟩ := h.low_reached f fMember
    rw [lowOld f fMember]
    exact ⟨z, (opens z _).2 (.inr openZ), walk⟩
  · rcases (opens a i).1 openA with ⟨rfl, -⟩ | olderA
    · -- The new frame has all its edges still to meet.
      exact absurd edge (met ⟨a, next a⟩ List.mem_cons_self rfl)
    · have metOld : t.Met a b := fun g gMember => met g (List.mem_cons_of_mem _ gMember)
      have olderB : t.search.Open b j := by
        refine ((opens b j).1 openB).resolve_left fun new => ?_
        exact h.seen_of_met olderA.seen edge metOld (new.1 ▸ unseen)
      rcases List.mem_cons.1 fMember with rfl | fOld
      · have number : k = t.search.counter := openF.unique openY
        have lt := h.search.lt_counter a i olderA
        omega
      · obtain ⟨g, gMember, l, openG, gLe, low⟩ :=
          h.noticed f fOld k (openOld f fOld k openF) a i olderA le b edge metOld j olderB
        exact ⟨g, List.mem_cons_of_mem _ gMember, l, (opens g.node l).2 (.inr openG), gLe,
          (lowOld g gMember).symm ▸ low⟩

/-- The next successor of the node on top is a node of the graph. -/
theorem Sound.next_inside (w : Within bound next nodes) (h : Sound bound next nodes t)
    (frames : t.frames = ⟨x, y :: rest⟩ :: below) : y ∈ nodes ∧ y < t.search.marks.size := by
  have top : ⟨x, y :: rest⟩ ∈ t.frames := frames ▸ List.mem_cons_self
  obtain ⟨k, openX⟩ := h.frame_open top
  have member : y ∈ nodes :=
    w.next_mem x (h.search.seen_mem x openX.seen) y (h.rest_next _ top y List.mem_cons_self)
  exact ⟨member, h.search.size_marks ▸ w.lt_bound y member⟩

/-- Meeting the next successor of the node on top. -/
theorem Sound.meet (w : Within bound next nodes) (h : Sound bound next nodes t)
    (frames : t.frames = ⟨x, y :: rest⟩ :: below) :
    Sound bound next nodes
      (Traversal.meet next { t with frames := ⟨x, rest⟩ :: below } x y) := by
  have top : ⟨x, y :: rest⟩ ∈ t.frames := frames ▸ List.mem_cons_self
  have edge : y ∈ next x := h.rest_next _ top y List.mem_cons_self
  obtain ⟨k, openX⟩ := h.frame_open top
  cases mark : t.search.markOf y with
  | closed =>
      have unchanged : Traversal.meet next { t with frames := ⟨x, rest⟩ :: below } x y =
          { t with frames := [] ++ ⟨x, rest⟩ :: below } := by
        simp [Traversal.meet, mark]
      rw [unchanged]
      refine h.advance frames (by simp [Seen, mark]) fun j openY => ?_
      rw [Open, mark] at openY
      cases openY
  | active j =>
      have learnt : Traversal.meet next { t with frames := ⟨x, rest⟩ :: below } x y =
          { t.lower x j with frames := [] ++ ⟨x, rest⟩ :: below } := by
        simp [Traversal.meet, mark, Traversal.lower]
      rw [learnt]
      refine (h.lower mark (.single edge)).advance frames (Open.seen mark) fun i openY => ?_
      rw [lowOf_lower, if_pos rfl, Open.unique openY mark]
      exact Nat.min_le_right _ _
  | unseen =>
      have entered : Traversal.meet next { t with frames := ⟨x, rest⟩ :: below } x y =
          { t.enter next y with frames := [⟨y, next y⟩] ++ ⟨x, rest⟩ :: below } := by
        simp [Traversal.meet, mark, Traversal.enter]
      obtain ⟨member, bounded⟩ := h.next_inside w frames
      have sound := h.enter w member mark fun f fMember => (h.reaches_top frames fMember).tail edge
      have twoFrames : (t.enter next y).frames = [⟨y, next y⟩] ++ ⟨x, y :: rest⟩ :: below := by
        simp [Traversal.enter, frames]
      rw [entered]
      refine sound.advance twoFrames ?_ fun j openY => ?_
      · exact (Search.seen_enter_iff bounded y).2 (.inl rfl)
      · -- The new number is above all others.
        have number : j = t.search.counter :=
          openY.unique ((Search.open_enter_iff bounded mark y _).2 (.inl ⟨rfl, rfl⟩))
        have older : (t.enter next y).search.Open x k :=
          (Search.open_enter_iff bounded mark x k).2 (.inr openX)
        have low := sound.low_le ⟨x, y :: rest⟩ (by simp [twoFrames]) k older
        have lt := h.search.lt_counter x k openX
        exact low.trans (number ▸ lt.le)

/-! ## Leaving a node -/

section Leave

variable (h : Sound bound next nodes t) (frames : t.frames = ⟨x, []⟩ :: below)

include h frames

/-- A node without successors left to meet has seen them all. -/
theorem Sound.all_seen : ∀ y ∈ next x, t.search.Seen y := fun y edge =>
  h.met_seen ⟨x, []⟩ (frames ▸ List.mem_cons_self) y edge List.not_mem_nil

theorem Sound.below_lt (openX : t.search.Open x n) :
    ∀ f ∈ below, ∀ k, t.search.Open f.node k → k < n := by
  intro f member k openF
  have falling := h.falling
  rw [frames] at falling
  exact List.rel_of_pairwise_cons falling member n k openX openF

/-- What the frame that is left knows is known to the frames below, once it was handed down. -/
theorem Sound.noticed_below (handed : ∀ p ∈ below.head?, t.lowOf p.node ≤ t.lowOf x) {f : Frame}
    (member : f ∈ below) (openF : t.search.Open f.node k) {a i : Nat} (openA : t.search.Open a i)
    (le : k ≤ i) {b : Nat} (edge : b ∈ next a)
    (met : Met { t with frames := below } a b) {j : Nat} (openB : t.search.Open b j) :
    ∃ g ∈ below, ∃ l, t.search.Open g.node l ∧ k ≤ l ∧ t.lowOf g.node ≤ j := by
  have metOld : t.Met a b := by
    rw [Met, frames]
    exact List.forall_mem_cons.2 ⟨fun _ => List.not_mem_nil, met⟩
  have fMember : f ∈ t.frames := frames ▸ List.mem_cons_of_mem _ member
  obtain ⟨g, gMember, l, openG, gLe, low⟩ :=
    h.noticed f fMember k openF a i openA le b edge metOld j openB
  rw [frames] at gMember
  rcases List.mem_cons.1 gMember with rfl | lower
  · match below, member, handed with
    | p :: deeper, member, handed =>
        have pMember : p ∈ t.frames := frames ▸ List.mem_cons_of_mem _ List.mem_cons_self
        obtain ⟨m, openP⟩ := h.frame_open pMember
        refine ⟨p, List.mem_cons_self, m, openP, ?_, (handed p rfl).trans low⟩
        rcases List.mem_cons.1 member with rfl | fDeeper
        · exact (openF.unique openP).le
        · have falling := h.falling
          rw [frames] at falling
          exact (List.rel_of_pairwise_cons (List.pairwise_cons.1 falling).2 fDeeper m k openP openF).le
  · exact ⟨g, lower, l, openG, gLe, low⟩

/-- A node that leads below itself is left open. -/
theorem Sound.retreat (handed : ∀ p ∈ below.head?, t.lowOf p.node ≤ t.lowOf x)
    (openX : t.search.Open x n) (lt : t.lowOf x < n) :
    Sound bound next nodes { t with frames := below } := by
  have top : ⟨x, []⟩ ∈ t.frames := frames ▸ List.mem_cons_self
  have old : ∀ f ∈ below, f ∈ t.frames := fun f member => frames ▸ List.mem_cons_of_mem _ member
  have search := h.search
  have falling := h.falling
  rw [frames] at search falling
  obtain ⟨z, openZ, walk⟩ := h.low_reached _ top
  exact
    { search := search.retreat openX (h.all_seen frames) openZ lt walk
      size_lows := h.size_lows
      falling := (List.pairwise_cons.1 falling).2
      rest_next := fun f member => h.rest_next f (old f member)
      met_seen := fun f member => h.met_seen f (old f member)
      low_le := fun f member => h.low_le f (old f member)
      low_reached := fun f member => h.low_reached f (old f member)
      noticed := fun f member k openF a i openA le b edge met j openB =>
        h.noticed_below frames handed member openF openA le edge met openB }

/-- No edge from the nodes above leads below a node whose low number is its own. -/
theorem Sound.inward (openX : t.search.Open x (t.lowOf x)) :
    ∀ a, t.search.Above (t.lowOf x) a → ∀ b ∈ next a, ∀ j, t.search.Open b j → t.lowOf x ≤ j := by
  rintro a ⟨i, openA, le⟩ b edge j openB
  have top : ⟨x, []⟩ ∈ t.frames := frames ▸ List.mem_cons_self
  -- The frames below lie lower than `a`, so no frame has the edge still to meet.
  have met : t.Met a b := by
    rintro f member rfl inRest
    rw [frames] at member
    rcases List.mem_cons.1 member with rfl | lower
    · cases inRest
    · exact absurd (h.below_lt frames openX f lower i openA) (Nat.not_lt.2 le)
  obtain ⟨g, gMember, l, openG, gLe, low⟩ := h.noticed _ top _ openX a i openA le b edge met j openB
  rw [frames] at gMember
  rcases List.mem_cons.1 gMember with rfl | lower
  · exact low
  · exact absurd (h.below_lt frames openX g lower l openG) (Nat.not_lt.2 gLe)

/-- A node whose low number is its own is closed with all above it. -/
theorem Sound.close (w : Within bound next nodes)
    (handed : ∀ p ∈ below.head?, t.lowOf p.node ≤ t.lowOf x)
    (openX : t.search.Open x (t.lowOf x)) :
    Sound bound next nodes { t with search := t.search.close x, frames := below } := by
  have old : ∀ f ∈ below, f ∈ t.frames := fun f member => frames ▸ List.mem_cons_of_mem _ member
  have lower := h.below_lt frames openX
  have search := h.search
  have falling := h.falling
  rw [frames] at search falling
  have c := search.closing w openX
  have stays : ∀ f ∈ below, ∀ k, t.search.Open f.node k → (t.search.close x).Open f.node k :=
    fun f member k openF => (c.open_iff _ _).2 ⟨openF, lower f member k openF⟩
  have older : ∀ {y k}, (t.search.close x).Open y k → t.search.Open y k :=
    fun openY => ((c.open_iff _ _).1 openY).1
  refine
    { search := search.close openX ?_ (h.all_seen frames) (h.inward frames openX) w
      size_lows := h.size_lows
      falling := (List.pairwise_cons.1 falling).2.imp fun falls j k openF openG =>
        falls j k (older openF) (older openG)
      rest_next := fun f member => h.rest_next f (old f member)
      met_seen := fun f member b edge done =>
        (c.seen_iff b).2 (h.met_seen f (old f member) b edge done)
      low_le := fun f member k openF => h.low_le f (old f member) k (older openF)
      low_reached := fun f member => ?_
      noticed := fun f member k openF a i openA le b edge met j openB => ?_ }
  · intro g onPath k openG
    obtain ⟨f, member, rfl⟩ := List.mem_map.1 onPath
    exact lower f member k openG
  · obtain ⟨z, openZ, walk⟩ := h.low_reached f (old f member)
    obtain ⟨k, openF⟩ := h.frame_open (old f member)
    have low := h.low_le f (old f member) k openF
    exact ⟨z, (c.open_iff z _).2 ⟨openZ, low.trans_lt (lower f member k openF)⟩, walk⟩
  · obtain ⟨g, gMember, l, openG, gLe, low⟩ :=
      h.noticed_below frames handed member (older openF) (older openA) le edge met (older openB)
    exact ⟨g, gMember, l, stays g gMember l openG, gLe, low⟩

theorem Sound.settle (w : Within bound next nodes)
    (handed : ∀ p ∈ below.head?, t.lowOf p.node ≤ t.lowOf x) :
    Sound bound next nodes (Traversal.settle { t with frames := below } x) := by
  have top : ⟨x, []⟩ ∈ t.frames := frames ▸ List.mem_cons_self
  obtain ⟨n, openX⟩ := h.frame_open top
  by_cases own : t.search.Open x (t.lowOf x)
  · have closes : Traversal.settle { t with frames := below } x =
        { t with search := t.search.close x, frames := below } := by
      have mark : t.search.markOf x = .active (t.lowOf x) := own
      simp [Traversal.settle, lowOf, show t.search.markOf x = .active (t.lows.getD x 0) from mark]
    rw [closes]
    exact h.close frames w handed own
  · have stays : Traversal.settle { t with frames := below } x = { t with frames := below } :=
      if_neg own
    rw [stays]
    refine h.retreat frames handed openX (Nat.lt_of_le_of_ne (h.low_le _ top n openX) ?_)
    exact fun same => own (same ▸ openX)

theorem Sound.leave (w : Within bound next nodes) :
    Sound bound next nodes ((handDown { t with frames := below } x).settle x) := by
  match below, frames with
  | [], frames => exact h.settle frames w (fun _ none => nomatch none)
  | p :: deeper, frames =>
      have top : ⟨x, []⟩ ∈ t.frames := frames ▸ List.mem_cons_self
      have pMember : p ∈ t.frames := frames ▸ List.mem_cons_of_mem _ List.mem_cons_self
      obtain ⟨z, openZ, walk⟩ := h.low_reached _ top
      have sound := h.lower openZ ((h.reaches_top frames pMember).trans walk)
      have differ : x ≠ p.node := by
        rintro rfl
        obtain ⟨n, openX⟩ := h.frame_open top
        exact Nat.lt_irrefl n (h.below_lt frames openX p List.mem_cons_self n openX)
      refine sound.settle frames w fun q first => ?_
      rw [List.head?_cons, Option.mem_some_iff] at first
      subst first
      rw [lowOf_lower, lowOf_lower, if_pos rfl, if_neg differ]
      exact Nat.min_le_right _ _

end Leave

/-- **A step keeps what the search knows.** -/
theorem Sound.step (w : Within bound next nodes) (h : Sound bound next nodes t) :
    Sound bound next nodes (Traversal.step next t) := by
  rw [Traversal.step]
  split
  case h_1 => exact h
  case h_2 x below frames => exact h.leave frames w
  case h_3 x y rest below frames => exact h.meet w frames

/-! ## The end of the search -/

/-- What the search has still to do: every frame is to meet the rest of its successors and to be
left, and every unseen node is to be searched whole. -/
def remaining (next : Nat → List Nat) (nodes : List Nat) (t : Traversal) : Nat :=
  (t.frames.flatMap Frame.rest).length + t.frames.length +
    effort next (nodes.filter fun x => t.search.markOf x = .unseen)

theorem frames_eq_nil_of_remaining (none : t.remaining next nodes = 0) : t.frames = [] := by
  cases frames : t.frames with
  | nil => rfl
  | cons f below =>
      rw [remaining, frames, List.length_cons] at none
      omega

theorem effort_append (next : Nat → List Nat) (xs ys : List Nat) :
    effort next (xs ++ ys) = effort next xs + effort next ys := by
  simp only [effort, List.flatMap_append, List.length_append]
  omega

theorem effort_cons (next : Nat → List Nat) (x : Nat) (xs : List Nat) :
    effort next (x :: xs) = (next x).length + 1 + effort next xs := by
  simp only [effort, List.flatMap_cons, List.length_append, List.length_cons]
  omega

theorem effort_filter_le (next : Nat → List Nat) (p : Nat → Bool) (xs : List Nat) :
    effort next (xs.filter p) ≤ effort next xs := by
  induction xs with
  | nil => exact le_refl _
  | cons x xs ih =>
      rw [List.filter_cons, effort_cons]
      by_cases kept : p x
      · rw [if_pos kept, effort_cons]
        omega
      · rw [if_neg kept]
        omega

theorem effort_filter_ne (next : Nat → List Nat) {x : Nat} {xs : List Nat} (member : x ∈ xs) :
    (next x).length + 1 + effort next (xs.filter (· != x)) ≤ effort next xs := by
  obtain ⟨before, after, rfl⟩ := List.append_of_mem member
  have first := effort_filter_le next (· != x) before
  have second := effort_filter_le next (· != x) after
  simp only [List.filter_append, List.filter_cons, effort_append, effort_cons, bne_self_eq_false,
    Bool.false_eq_true, if_false]
  omega

/-- A node that is entered is searched by its frame and no longer on its own. -/
theorem remaining_enter (bounded : y < t.search.marks.size) (member : y ∈ nodes)
    (unseen : t.search.markOf y = .unseen) :
    (t.enter next y).remaining next nodes ≤ t.remaining next nodes := by
  have fewer : (nodes.filter fun x => (t.search.enter y).markOf x = .unseen) =
      (nodes.filter fun x => t.search.markOf x = .unseen).filter (· != y) := by
    rw [List.filter_filter]
    refine List.filter_congr fun x _ => ?_
    by_cases same : x = y <;> simp [Search.markOf_enter bounded, same]
  have listed : y ∈ nodes.filter fun x => t.search.markOf x = .unseen := by simp [member, unseen]
  have less := effort_filter_ne next listed
  have count : (t.enter next y).remaining next nodes =
      (next y ++ t.frames.flatMap Frame.rest).length + (t.frames.length + 1) +
        effort next (nodes.filter fun x => (t.search.enter y).markOf x = .unseen) := rfl
  rw [count, fewer, remaining, List.length_append]
  omega

@[simp] theorem search_handDown (t : Traversal) (x : Nat) : (t.handDown x).search = t.search := by
  rw [handDown]
  split <;> rfl

@[simp] theorem frames_handDown (t : Traversal) (x : Nat) : (t.handDown x).frames = t.frames := by
  rw [handDown]
  split <;> rfl

@[simp] theorem frames_settle (t : Traversal) (x : Nat) : (t.settle x).frames = t.frames := by
  rw [settle]
  split <;> rfl

/-- What is closed was seen before. -/
theorem Sound.seen_leave (w : Within bound next nodes) (h : Sound bound next nodes t)
    (below : List Frame) (x y : Nat) :
    ((handDown { t with frames := below } x).settle x).search.Seen y ↔ t.search.Seen y := by
  rw [Traversal.settle]
  split
  case isTrue own =>
    rw [search_handDown] at own ⊢
    exact (h.search.closing w own).seen_iff y
  case isFalse => rw [search_handDown]

/-- Every step does one thing that was still to do. -/
theorem Sound.remaining_step (w : Within bound next nodes) (h : Sound bound next nodes t)
    (going : t.frames ≠ []) :
    (Traversal.step next t).remaining next nodes < t.remaining next nodes := by
  rw [Traversal.step]
  split
  case h_1 none => exact absurd none going
  case h_2 x below frames =>
    have same : (nodes.filter fun y =>
          ((handDown { t with frames := below } x).settle x).search.markOf y = .unseen) =
        nodes.filter fun y => t.search.markOf y = .unseen := by
      refine List.filter_congr fun y _ => ?_
      have seen := not_congr (h.seen_leave w below x y)
      simpa only [Seen, ne_eq, not_not, decide_eq_decide] using seen
    simp only [remaining, same, frames_settle, frames_handDown, frames, List.flatMap_cons,
      List.length_append, List.length_cons, List.length_nil]
    omega
  case h_3 x y rest below frames =>
    have shorter : remaining next nodes { t with frames := ⟨x, rest⟩ :: below } <
        t.remaining next nodes := by
      simp only [remaining, frames, List.flatMap_cons, List.length_append, List.length_cons]
      omega
    rw [Traversal.meet]
    split
    case h_1 unseen =>
      obtain ⟨member, bounded⟩ := h.next_inside w frames
      have entered : (Traversal.enter next { t with frames := ⟨x, rest⟩ :: below } y).remaining next
          nodes ≤ remaining next nodes { t with frames := ⟨x, rest⟩ :: below } :=
        remaining_enter bounded member unseen
      exact entered.trans_lt shorter
    case h_2 => exact shorter
    case h_3 => exact shorter

/-- What was seen stays seen. -/
theorem Sound.seen_step (w : Within bound next nodes) (h : Sound bound next nodes t) {a : Nat}
    (seen : t.search.Seen a) : (Traversal.step next t).search.Seen a := by
  rw [Traversal.step]
  split
  case h_1 => exact seen
  case h_2 x below frames => exact (h.seen_leave w below x a).2 seen
  case h_3 x y rest below frames =>
    rw [Traversal.meet]
    split
    case h_1 unseen =>
      obtain ⟨-, bounded⟩ := h.next_inside w frames
      exact (Search.seen_enter_iff bounded a).2 (.inr seen)
    case h_2 => exact seen
    case h_3 => exact seen

/-- **A run ends before its fuel does**, with no frame left. -/
theorem Sound.run_ends (w : Within bound next nodes) (fuel : Nat) (h : Sound bound next nodes t)
    (enough : t.remaining next nodes ≤ fuel) :
    Sound bound next nodes (run next fuel t) ∧ (run next fuel t).frames = [] ∧
      ∀ a, t.search.Seen a → (run next fuel t).search.Seen a := by
  induction fuel generalizing t with
  | zero =>
      exact ⟨h, frames_eq_nil_of_remaining (Nat.le_zero.1 enough), fun _ seen => seen⟩
  | succ fuel ih =>
      rw [run]
      by_cases done : t.frames = []
      · rw [if_pos (List.isEmpty_iff.2 done)]
        exact ⟨h, done, fun _ seen => seen⟩
      · rw [if_neg (fun empty => done (List.isEmpty_iff.1 empty))]
        have less := h.remaining_step w done
        obtain ⟨sound, ended, seen⟩ := ih (h.step w) (by omega)
        exact ⟨sound, ended, fun a before => seen a (h.seen_step w before)⟩

/-! ## All roots in turn -/

theorem sound_start (bound : Nat) (next : Nat → List Nat) (nodes : List Nat) :
    Sound bound next nodes (start bound) := by
  have unseen : ∀ x, ({ marks := Array.replicate bound .unseen } : Search).markOf x = .unseen := by
    intro x
    by_cases inside : x < bound <;> simp [Search.markOf, inside]
  constructor
  case search => constructor <;> simp [start, Seen, Open, unseen]
  all_goals simp [start]

theorem remaining_le_effort (none : t.frames = []) :
    t.remaining next nodes ≤ effort next nodes := by
  simp only [remaining, none, List.flatMap_nil, List.length_nil, Nat.zero_add]
  exact effort_filter_le next _ nodes

theorem Sound.searchFrom (w : Within bound next nodes) (h : Sound bound next nodes t)
    (none : t.frames = []) (member : x ∈ nodes) :
    Sound bound next nodes (searchFrom next (effort next nodes) t x) ∧
      (searchFrom next (effort next nodes) t x).frames = [] ∧
      (searchFrom next (effort next nodes) t x).search.Seen x ∧
      ∀ a, t.search.Seen a → (searchFrom next (effort next nodes) t x).search.Seen a := by
  have bounded : x < t.search.marks.size := h.search.size_marks ▸ w.lt_bound x member
  rw [Traversal.searchFrom]
  split
  case h_1 unseen =>
    have entered := h.enter w member unseen fun f onFrames => by simp [none] at onFrames
    have enough : (t.enter next x).remaining next nodes ≤ effort next nodes :=
      (remaining_enter bounded member unseen).trans (remaining_le_effort none)
    obtain ⟨sound, ended, seen⟩ := entered.run_ends w _ enough
    have sees := fun a => (Search.seen_enter_iff bounded a).2
    exact ⟨sound, ended, seen x (sees x (.inl rfl)), fun a before => seen a (sees a (.inr before))⟩
  case h_2 seen => exact ⟨h, none, seen, fun _ before => before⟩

theorem Sound.searchAll (w : Within bound next nodes) (xs : List Nat) (inside : ∀ x ∈ xs, x ∈ nodes)
    (h : Sound bound next nodes t) (none : t.frames = []) :
    Sound bound next nodes (xs.foldl (Traversal.searchFrom next (effort next nodes)) t) ∧
      (xs.foldl (Traversal.searchFrom next (effort next nodes)) t).frames = [] ∧
      (∀ x ∈ xs, (xs.foldl (Traversal.searchFrom next (effort next nodes)) t).search.Seen x) ∧
      ∀ a, t.search.Seen a →
        (xs.foldl (Traversal.searchFrom next (effort next nodes)) t).search.Seen a := by
  induction xs generalizing t with
  | nil => exact ⟨h, none, fun _ member => (nomatch member), fun _ seen => seen⟩
  | cons x xs ih =>
      obtain ⟨sound, ended, seenX, seen⟩ := h.searchFrom w none (inside x List.mem_cons_self)
      obtain ⟨sound', ended', seenRest, seen'⟩ :=
        ih (fun y member => inside y (List.mem_cons_of_mem x member)) sound ended
      exact ⟨sound', ended', List.forall_mem_cons.2 ⟨seen' x seenX, seenRest⟩,
        fun a before => seen' a (seen a before)⟩

end Traversal

section Result

variable {bound : Nat} {next : Nat → List Nat} {nodes : List Nat}

/-- When the search is done with some of the roots, no frame is left. -/
theorem searchAll_ends (w : Within bound next nodes) {roots : List Nat} (first : roots <+: nodes) :
    (roots.foldl (Traversal.searchFrom next (effort next nodes)) (Traversal.start bound)).frames =
      [] :=
  (Traversal.Sound.searchAll w roots (fun _ member => first.subset member)
    (Traversal.sound_start bound next nodes) rfl).2.1

/-- **The search finds the strongly connected components.** -/
theorem componentsOf_isPartition (w : Within bound next nodes) :
    IsPartition next nodes (componentsOf bound next nodes) := by
  obtain ⟨sound, ended, seen, -⟩ := Traversal.Sound.searchAll w nodes (fun _ member => member)
    (Traversal.sound_start bound next nodes) rfl
  have search := sound.search
  rw [ended, List.map_nil] at search
  refine ⟨search.found_nodup, search.found_ne_nil, fun x => ?_, search.found_together⟩
  constructor
  · intro found
    exact search.seen_mem x (by simp [Search.Seen, (search.closed_iff x).2 found])
  · intro member
    rcases (seen x member).cases with ⟨k, isOpen⟩ | closed
    · -- No frame is left, so no open node is left either.
      obtain ⟨g, onPath, -⟩ := search.reaches_path x k isOpen
      cases onPath
    · exact (search.closed_iff x).1 closed

end Result

end Marking.Precedence
