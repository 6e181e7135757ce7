/-
# Marking.Proofs.Precedence.Cycles -- the cycles of a relation, listed

`IsCycles waits earlier cs` says that `cs` is the list of the cycles of `waits`: whatever lies on
a cycle is listed, once, and two nodes share a list exactly when each leads to the other.  The
members of a list come in the order `earlier`, and so do the lists by their first members.

* `cycles_isCycles`: the components that `cycles` keeps, sorted twice, are this list.  A component
  has a cycle when it has two members or its only one needs itself; members of one component
  lead to each other, so in the first case each of them lies on a cycle.
* `IsCycles.eq_nil_iff`: the list is empty when nothing leads back to itself.
* `IsCycles.map`: the names of the nodes do not matter.
-/
import Mathlib.Data.List.Flatten
import Mathlib.Data.List.Pairwise
import Marking.Proofs.Precedence.Knots
import Marking.Proofs.Precedence.Unmet

set_option autoImplicit false

namespace Marking

variable {β γ : Type}

/-! ## Lists of cycles -/

/-- The lists are the cycles of the relation, in the order of registration. -/
structure IsCycles (waits earlier : β → β → Prop) (cs : List (List β)) : Prop where
  /-- What is listed leads back to itself, and whatever does is listed. -/
  mem_iff : ∀ u, (∃ c ∈ cs, u ∈ c) ↔ Relation.TransGen waits u u
  /-- Nothing is listed twice, neither in two lists nor in one. -/
  nodup : cs.flatten.Nodup
  ne_nil : ∀ c ∈ cs, c ≠ []
  /-- Two nodes are listed together exactly when each leads to the other. -/
  together : ∀ u v, (∃ c ∈ cs, u ∈ c ∧ v ∈ c) ↔
    Relation.TransGen waits u v ∧ Relation.TransGen waits v u
  rising : ∀ c ∈ cs, c.Pairwise earlier
  /-- The lists are sorted by their first members. -/
  ordered : cs.Pairwise fun c d => ∀ u ∈ c.head?, ∀ v ∈ d.head?, earlier u v

/-- Without cycles nothing is listed, and otherwise something is. -/
theorem IsCycles.eq_nil_iff {waits earlier : β → β → Prop} {cs : List (List β)}
    (h : IsCycles waits earlier cs) : cs = [] ↔ ¬ ∃ u, Relation.TransGen waits u u := by
  constructor
  · rintro rfl ⟨u, ring⟩
    obtain ⟨c, listed, -⟩ := (h.mem_iff u).2 ring
    cases listed
  · intro acyclic
    rw [List.eq_nil_iff_forall_not_mem]
    intro c listed
    obtain ⟨u, member⟩ := List.exists_mem_of_ne_nil c (h.ne_nil c listed)
    exact acyclic ⟨u, (h.mem_iff u).1 ⟨c, listed, member⟩⟩

/-- What leads back to itself is in one list only. -/
theorem IsCycles.existsUnique {waits earlier : β → β → Prop} {cs : List (List β)}
    (h : IsCycles waits earlier cs) {u : β} (ring : Relation.TransGen waits u u) :
    ∃! c, c ∈ cs ∧ u ∈ c := by
  obtain ⟨c, listed, member⟩ := (h.mem_iff u).2 ring
  refine ⟨c, ⟨listed, member⟩, fun d both => ?_⟩
  by_contra differ
  have : Std.Symm (List.Disjoint (α := β)) := ⟨fun _ _ disjoint => disjoint.symm⟩
  exact (List.nodup_flatten.1 h.nodup).2.forall both.1 listed differ both.2 member

section Map

variable {waits : β → β → Prop} {waits' : γ → γ → Prop} {nodes : List β} (f : β → γ)
  (injective : ∀ u ∈ nodes, ∀ v ∈ nodes, f u = f v → u = v)
  (same : ∀ u ∈ nodes, ∀ v ∈ nodes, waits u v ↔ waits' (f u) (f v))
  (known : ∀ u v, waits u v → u ∈ nodes ∧ v ∈ nodes)
  (known' : ∀ x y, waits' x y → x ∈ nodes.map f ∧ y ∈ nodes.map f)

include injective same known known'

omit injective known in
/-- A path between images is the image of a path. -/
theorem transGen_map {u : β} (member : u ∈ nodes) {x : γ} (path : Relation.TransGen waits' (f u) x) :
    ∃ v ∈ nodes, f v = x ∧ Relation.TransGen waits u v := by
  induction path with
  | single step =>
      obtain ⟨v, vMember, rfl⟩ := List.mem_map.1 (known' _ _ step).2
      exact ⟨v, vMember, rfl, .single ((same u member v vMember).2 step)⟩
  | tail _ step ih =>
      obtain ⟨v, vMember, rfl, path⟩ := ih
      obtain ⟨t, tMember, rfl⟩ := List.mem_map.1 (known' _ _ step).2
      exact ⟨t, tMember, rfl, path.tail ((same v vMember t tMember).2 step)⟩

theorem transGen_map_iff {u v : β} (uMember : u ∈ nodes) (vMember : v ∈ nodes) :
    Relation.TransGen waits' (f u) (f v) ↔ Relation.TransGen waits u v := by
  constructor
  · intro path
    obtain ⟨t, tMember, eq, path⟩ := transGen_map f same known' uMember path
    rwa [injective t tMember v vMember eq] at path
  · have step : ∀ a b, waits a b → waits' (f a) (f b) := fun a b awaits =>
      (same a (known a b awaits).1 b (known a b awaits).2).1 awaits
    exact fun path => Relation.TransGen.lift f step _ _ path

/-- Something leads back to itself when its image does. -/
theorem exists_ring_map_iff :
    (∃ x, Relation.TransGen waits' x x) ↔ ∃ u, Relation.TransGen waits u u := by
  constructor
  · rintro ⟨x, ring⟩
    obtain ⟨y, step, -⟩ := Relation.TransGen.head'_iff.1 ring
    obtain ⟨u, member, rfl⟩ := List.mem_map.1 (known' x y step).1
    exact ⟨u, (transGen_map_iff f injective same known known' member member).1 ring⟩
  · rintro ⟨u, ring⟩
    obtain ⟨v, step, -⟩ := Relation.TransGen.head'_iff.1 ring
    have member := (known u v step).1
    exact ⟨f u, (transGen_map_iff f injective same known known' member member).2 ring⟩

/-- The cycles of other nodes of the same shape. -/
theorem IsCycles.map {earlier : β → β → Prop} {earlier' : γ → γ → Prop}
    (sorted : ∀ u ∈ nodes, ∀ v ∈ nodes, earlier u v → earlier' (f u) (f v)) {cs : List (List β)}
    (h : IsCycles waits earlier cs) : IsCycles waits' earlier' (cs.map (List.map f)) := by
  have inside : ∀ c ∈ cs, ∀ u ∈ c, u ∈ nodes := by
    intro c listed u member
    obtain ⟨v, step, -⟩ := Relation.TransGen.head'_iff.1 ((h.mem_iff u).1 ⟨c, listed, member⟩)
    exact (known u v step).1
  have paths {u v : β} (uMember : u ∈ nodes) (vMember : v ∈ nodes) :=
    transGen_map_iff f injective same known known' uMember vMember
  have image : ∀ x y, Relation.TransGen waits' x y → ∃ u ∈ nodes, f u = x := by
    intro x y path
    obtain ⟨z, step, -⟩ := Relation.TransGen.head'_iff.1 path
    exact List.mem_map.1 (known' x z step).1
  have together : ∀ x y, (∃ c ∈ cs.map (List.map f), x ∈ c ∧ y ∈ c) ↔
      Relation.TransGen waits' x y ∧ Relation.TransGen waits' y x := by
    intro x y
    constructor
    · rintro ⟨_, listed, xMember, yMember⟩
      obtain ⟨c, cListed, rfl⟩ := List.mem_map.1 listed
      obtain ⟨u, uMember, rfl⟩ := List.mem_map.1 xMember
      obtain ⟨v, vMember, rfl⟩ := List.mem_map.1 yMember
      have uInside := inside c cListed u uMember
      have vInside := inside c cListed v vMember
      rw [paths uInside vInside, paths vInside uInside]
      exact (h.together u v).1 ⟨c, cListed, uMember, vMember⟩
    · rintro ⟨there, back⟩
      obtain ⟨u, uInside, rfl⟩ := image x y there
      obtain ⟨v, vInside, rfl⟩ := image y (f u) back
      rw [paths uInside vInside] at there
      rw [paths vInside uInside] at back
      obtain ⟨c, listed, uMember, vMember⟩ := (h.together u v).2 ⟨there, back⟩
      exact ⟨c.map f, List.mem_map_of_mem listed, List.mem_map_of_mem uMember,
        List.mem_map_of_mem vMember⟩
  refine ⟨fun x => by simpa using together x x, ?_, ?_, together, ?_, ?_⟩
  · rw [← List.map_flatten]
    refine h.nodup.map_on fun u uListed v vListed eq => ?_
    obtain ⟨c, cListed, uMember⟩ := List.mem_flatten.1 uListed
    obtain ⟨d, dListed, vMember⟩ := List.mem_flatten.1 vListed
    exact injective u (inside c cListed u uMember) v (inside d dListed v vMember) eq
  · intro _ listed
    obtain ⟨c, cListed, rfl⟩ := List.mem_map.1 listed
    simpa using h.ne_nil c cListed
  · intro _ listed
    obtain ⟨c, cListed, rfl⟩ := List.mem_map.1 listed
    rw [List.pairwise_map]
    exact (h.rising c cListed).imp_of_mem fun uMember vMember before =>
      sorted _ (inside c cListed _ uMember) _ (inside c cListed _ vMember) before
  · rw [List.pairwise_map]
    refine h.ordered.imp_of_mem fun {c d} cListed dListed before x xHead y yHead => ?_
    rw [List.head?_map, Option.mem_map] at xHead yHead
    obtain ⟨u, uHead, rfl⟩ := xHead
    obtain ⟨v, vHead, rfl⟩ := yHead
    exact sorted u (inside c cListed u (List.mem_of_mem_head? uHead)) v
      (inside d dListed v (List.mem_of_mem_head? vHead)) (before u uHead v vHead)

end Map

/-! ## The cycles of a precedence -/

namespace Precedence

variable {p : Precedence}

theorem needsOf_outside (p : Precedence) {i : Nat} (outside : p.size ≤ i) : p.needsOf i = [] := by
  rw [size] at outside
  simp [needsOf, outside]

/-- Positions wait for positions. -/
theorem Waits.positions {i j : Nat} (awaits : p.Waits i j) : i ∈ p.positions ∧ j ∈ p.positions := by
  rw [mem_positions, mem_positions]
  refine ⟨?_, p.lt_size_of_mem_needsOf awaits⟩
  by_contra outside
  have none : j ∈ p.needsOf i := awaits
  rw [p.needsOf_outside (Nat.le_of_not_lt outside)] at none
  cases none

theorem components_isPartition (p : Precedence) : IsPartition p.needsOf p.positions p.components :=
  componentsOf_isPartition ⟨fun _ => mem_positions.1, fun _ _ _ awaits => (Waits.positions awaits).2⟩

/-- A member of a component lies on a cycle exactly when the component counts as one. -/
theorem isCyclic_iff {c : List Nat} (found : c ∈ p.components) {u : Nat} (member : u ∈ c) :
    p.isCyclic c = true ↔ Relation.TransGen p.Waits u u := by
  have parts := p.components_isPartition
  have nodup : c.Nodup := (List.nodup_flatten.1 parts.nodup).1 c found
  have together := parts.together c found
  -- A path to another member cannot be empty.
  have round : ∀ v ∈ c, v ≠ u → Relation.TransGen p.Waits u u := by
    intro v vMember differ
    obtain ⟨there, back⟩ := (together u member v).1 vMember
    rcases Relation.reflTransGen_iff_eq_or_transGen.1 there with eq | path
    · exact absurd eq differ
    · exact path.trans_left back
  constructor
  · intro cyclic
    rw [isCyclic, Bool.or_eq_true, decide_eq_true_iff, List.any_eq_true] at cyclic
    rcases cyclic with several | ⟨i, iMember, self⟩
    · match c, nodup, several with
      | a :: b :: rest, nodup, _ =>
          have differ : a ≠ b := fun eq => (List.nodup_cons.1 nodup).1 (eq ▸ List.mem_cons_self)
          by_cases first : a = u
          · exact round b (by simp) (fun eq => differ (first.trans eq.symm))
          · exact round a (by simp) first
    · obtain ⟨there, back⟩ := (together u member i).1 iMember
      have self : p.Waits i i := by simpa using self
      exact .trans_right there (.head' self back)
  · intro ring
    obtain ⟨v, step, back⟩ := Relation.TransGen.head'_iff.1 ring
    have vMember : v ∈ c := (together u member v).2 ⟨.single step, back⟩
    rw [isCyclic, Bool.or_eq_true, decide_eq_true_iff, List.any_eq_true]
    by_cases self : v = u
    · exact Or.inr ⟨u, member, by simpa [self] using step⟩
    · left
      match c, member, vMember with
      | [a], member, vMember => simp_all
      | a :: b :: rest, _, _ => simp

/-- What `cycles` lists: the cyclic components, in rising order. -/
theorem mem_cycles {c : List Nat} :
    c ∈ p.cycles ↔ ∃ d ∈ p.components, p.isCyclic d = true ∧ rising d = c := by
  simp [cycles, and_assoc]

theorem nodup_cycles (p : Precedence) : p.cycles.flatten.Nodup := by
  have sorted : p.cycles.flatten.Perm ((p.components.filter p.isCyclic).map rising).flatten :=
    (List.mergeSort_perm _ _).flatten
  have same : ((p.components.filter p.isCyclic).map rising).flatten.Perm
      (p.components.filter p.isCyclic).flatten :=
    List.Perm.flatten_congr
      (List.forall₂_map_left_iff.2 (List.forall₂_same.2 fun d _ => rising_perm d))
  exact (sorted.trans same).nodup_iff.2
    (p.components_isPartition.nodup.sublist List.filter_sublist.flatten)

/-- The lists are in the order of their first members, which differ. -/
theorem ordered_cycles (p : Precedence) :
    p.cycles.Pairwise fun c d => ∀ u ∈ c.head?, ∀ v ∈ d.head?, u < v := by
  have sorted : p.cycles.Pairwise fun c d => decide (c.headD 0 ≤ d.headD 0) = true :=
    List.pairwise_mergeSort (by simpa using fun a b c => Nat.le_trans)
      (by simpa using fun a b => Nat.le_total _ _) _
  have apart := (List.nodup_flatten.1 p.nodup_cycles).2
  refine (sorted.and apart).imp fun {c d} both u uHead v vHead => ?_
  obtain ⟨le, disjoint⟩ := both
  have differ : u ≠ v := fun eq =>
    disjoint (List.mem_of_mem_head? uHead) (eq ▸ List.mem_of_mem_head? vHead)
  rw [decide_eq_true_iff, List.headD_eq_head?_getD, List.headD_eq_head?_getD,
    Option.mem_def.1 uHead, Option.mem_def.1 vHead] at le
  exact Nat.lt_of_le_of_ne le differ

/-- Members of one listed component lead to each other, and nothing else does both ways. -/
theorem cycles_together (p : Precedence) (u v : Nat) : (∃ c ∈ p.cycles, u ∈ c ∧ v ∈ c) ↔
    Relation.TransGen p.Waits u v ∧ Relation.TransGen p.Waits v u := by
  have parts := p.components_isPartition
  constructor
  · rintro ⟨c, listed, uMember, vMember⟩
    obtain ⟨d, found, cyclic, rfl⟩ := mem_cycles.1 listed
    rw [(rising_perm d).mem_iff] at uMember vMember
    obtain ⟨there, back⟩ := (parts.together d found u uMember v).1 vMember
    have ring := (isCyclic_iff found uMember).1 cyclic
    exact ⟨ring.trans_left there, .trans_right back ring⟩
  · rintro ⟨there, back⟩
    obtain ⟨w, step, -⟩ := Relation.TransGen.head'_iff.1 there
    obtain ⟨d, found, uMember⟩ :=
      List.mem_flatten.1 ((parts.mem_iff u).2 (Waits.positions step).1)
    have vMember : v ∈ d :=
      (parts.together d found u uMember v).2 ⟨there.to_reflTransGen, back.to_reflTransGen⟩
    have cyclic := (isCyclic_iff found uMember).2 (there.trans back)
    exact ⟨rising d, mem_cycles.2 ⟨d, found, cyclic, rfl⟩, (rising_perm d).mem_iff.2 uMember,
      (rising_perm d).mem_iff.2 vMember⟩

/-- **`cycles` lists the cycles**, each in rising order, by their first members. -/
theorem cycles_isCycles (p : Precedence) : IsCycles p.Waits (· < ·) p.cycles where
  mem_iff u := by simpa using p.cycles_together u u
  nodup := p.nodup_cycles
  ne_nil c listed := by
    obtain ⟨d, found, -, rfl⟩ := mem_cycles.1 listed
    intro none
    exact p.components_isPartition.ne_nil d found (by simpa [none] using rising_perm d)
  together := p.cycles_together
  rising c listed := by
    obtain ⟨d, found, -, rfl⟩ := mem_cycles.1 listed
    exact rising_pairwise ((List.nodup_flatten.1 p.components_isPartition.nodup).1 d found)
  ordered := p.ordered_cycles

end Precedence

end Marking
