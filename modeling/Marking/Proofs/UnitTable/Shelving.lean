/-
# Marking.Proofs.UnitTable.Shelving -- tables of units that others hold too

A table on a shelf is a list of positions.  Under `firstWins` an addition changes the stored unit
where it stands, and whoever holds that unit sees it; under `union` it puts a new unit on the
shelf and moves the position in the table.  Read off the shelf, both are the insertion of a unit
into a list (`Holds.add`): for that, what is still to be added must be no unit of the table, since
the table may change those.

So the table is a fold over the units that were added, key by key (`KeyedFold`), with one
reservation.  An item may be absent, for a unit takes any item that is added to it; and a unit that
is put together from two leaves such items out.  Under `union` they are lost as soon as a second
unit comes under the key, and under `firstWins` they are not (`Sample.absent_item_lost`).
-/
import Marking.Proofs.UnitTable.KeyedFold
import Marking.UnitTable.Shared

set_option autoImplicit false

namespace Marking.UnitTable.Shelf

variable {s : Shelf} {added : List (WorkUnit Value)} {u : WorkUnit Value} {i j : Nat}
  {is : List Nat}

/-! ## Positions -/

theorem unitAt_set (s : Shelf) (u : WorkUnit Value) (there : j < s.units.size) (i : Nat) :
    ({ s with units := s.units.setIfInBounds j u } : Shelf).unitAt i =
      if i = j then u else s.unitAt i := by
  by_cases same : i = j
  · subst same
    simp [unitAt, there]
  · have other : j ≠ i := Ne.symm same
    simp [unitAt, same, other, Array.getD_eq_getD_getElem?]

theorem unitAt_place (s : Shelf) (u : WorkUnit Value) (there : i < s.units.size) :
    (s.place u).2.unitAt i = s.unitAt i := by
  have other : i ≠ s.units.size := Nat.ne_of_lt there
  simp [unitAt, place, Array.getD_eq_getD_getElem?, Array.getElem?_push, other]

theorem unitAt_place_self (s : Shelf) (u : WorkUnit Value) :
    (s.place u).2.unitAt s.units.size = u := by
  simp [unitAt, place, Array.getD_eq_getD_getElem?]

theorem stored_find? (s : Shelf) (k : UnitKey) :
    s.stored.find? (fun v => v.key = k) = (s.find? k).map s.unitAt := by
  rw [stored, List.find?_map]
  rfl

/-! ## Additions -/

/-- The table holds the fold of what was added, in units that are on the shelf. -/
structure Holds (s : Shelf) (added : List (WorkUnit Value)) : Prop where
  there : ∀ j ∈ s.table, j < s.units.size
  stored : s.stored = s.policy.byKey present added

theorem Holds.sameKey (h : Holds s added) (inTable : j ∈ s.table) (inTable' : i ∈ s.table)
    (same : (s.unitAt i).key = (s.unitAt j).key) : i = j := by
  have distinct : (s.table.map fun i => (s.unitAt i).key).Nodup := by
    have keys := s.policy.keys_byKey_nodup present added
    rwa [← h.stored, Shelf.stored, List.map_map] at keys
  exact List.inj_on_of_nodup_map distinct inTable' inTable same

/-- What an addition leaves as it is: every unit that is neither added nor in the table stays so,
and stays what it is. -/
structure Keeps (s s' : Shelf) (i : Nat) : Prop where
  policy : s'.policy = s.policy
  grows : s.units.size ≤ s'.units.size
  others : ∀ j < s.units.size, j ∉ s.table → j ≠ i → j ∉ s'.table ∧ s'.unitAt j = s.unitAt j

theorem add_of_new (new : s.find? (s.unitAt i).key = none) :
    (s.add i).2.1 = { s with table := s.table ++ [i] } := by
  simp only [add, new]

theorem add_firstWins (known : s.find? (s.unitAt i).key = some j) (policy : s.policy = .firstWins) :
    (s.add i).2.1 =
      { s with units := s.units.setIfInBounds j
                (s.policy.fold present (s.unitAt j) (s.unitAt i)) } := by
  simp only [add, known, policy]

theorem add_union (known : s.find? (s.unitAt i).key = some j) (policy : s.policy = .union) :
    (s.add i).2.1 =
      { (s.place (s.policy.fold present (s.unitAt j) (s.unitAt i))).2 with
        table := s.table.map fun x => if x = j then s.units.size else x } := by
  simp only [add, known, policy]
  rfl

theorem Holds.addNew (h : Holds s added) (there : i < s.units.size)
    (new : s.find? (s.unitAt i).key = none) :
    Holds (s.add i).2.1 (added ++ [s.unitAt i]) ∧ Keeps s (s.add i).2.1 i := by
  have inserted := s.policy.insert_byKey present added (s.unitAt i)
  rw [← h.stored, MergePolicy.insert, stored_find?, new] at inserted
  rw [add_of_new new]
  refine ⟨⟨fun j member => ?_, ?_⟩, ⟨rfl, Nat.le_refl _, fun j _ outside other => ⟨?_, rfl⟩⟩⟩
  · rcases List.mem_append.1 member with old | last
    · exact h.there j old
    · rwa [List.mem_singleton.1 last]
  · exact List.map_append.trans inserted
  · simp [outside, other]

/-- The unit of a known key is the only one of its key. -/
theorem Holds.key_iff (h : Holds s added) (known : s.find? (s.unitAt i).key = some j) :
    j ∈ s.table ∧ ∀ x ∈ s.table, (s.unitAt x).key = (s.unitAt i).key ↔ x = j := by
  have inTable : j ∈ s.table := List.mem_of_find?_eq_some known
  have key : (s.unitAt j).key = (s.unitAt i).key := by simpa using List.find?_some known
  refine ⟨inTable, fun x member => ⟨fun same => ?_, ?_⟩⟩
  · exact h.sameKey inTable member (same.trans key.symm)
  · rintro rfl
    exact key

/-- The later unit of a key goes into the stored one, wherever the result is put. -/
theorem Holds.fold (h : Holds s added) (known : s.find? (s.unitAt i).key = some j) :
    (s.table.map fun x => if x = j then s.policy.fold present (s.unitAt j) (s.unitAt i)
        else s.unitAt x) = s.policy.byKey present (added ++ [s.unitAt i]) := by
  have inserted := s.policy.insert_byKey present added (s.unitAt i)
  rw [← h.stored, MergePolicy.insert, stored_find?, known] at inserted
  refine Eq.trans ?_ inserted
  simp only [Option.map_some, Shelf.stored, List.map_map]
  refine List.map_congr_left fun x member => ?_
  simp only [Function.comp_apply, (h.key_iff known).2 x member]

theorem Holds.addFirstWins (h : Holds s added) (known : s.find? (s.unitAt i).key = some j)
    (policy : s.policy = .firstWins) :
    Holds (s.add i).2.1 (added ++ [s.unitAt i]) ∧ Keeps s (s.add i).2.1 i := by
  have inTable := (h.key_iff known).1
  have set := unitAt_set s (s.policy.fold present (s.unitAt j) (s.unitAt i)) (h.there j inTable)
  rw [add_firstWins known policy]
  refine ⟨⟨fun x member => ?_, ?_⟩, ⟨rfl, ?_, fun x _ outside _ => ⟨outside, ?_⟩⟩⟩
  · simpa using h.there x member
  · refine Eq.trans ?_ (h.fold known)
    exact List.map_congr_left fun x _ => set x
  · simp
  · rw [set, if_neg]
    rintro rfl
    exact outside inTable

theorem Holds.addUnion (h : Holds s added) (known : s.find? (s.unitAt i).key = some j)
    (policy : s.policy = .union) :
    Holds (s.add i).2.1 (added ++ [s.unitAt i]) ∧ Keeps s (s.add i).2.1 i := by
  rw [add_union known policy]
  refine ⟨⟨fun x member => ?_, ?_⟩, ⟨rfl, ?_, fun x bound outside _ => ⟨fun member => ?_, ?_⟩⟩⟩
  · obtain ⟨y, yMember, rfl⟩ := List.mem_map.1 member
    have bound := h.there y yMember
    simp only [place, Array.size_push]
    split <;> omega
  · refine Eq.trans ?_ (h.fold known)
    rw [Shelf.stored, List.map_map]
    refine List.map_congr_left fun x member => ?_
    rw [Function.comp_apply]
    split
    · exact unitAt_place_self s _
    · exact unitAt_place s _ (h.there x member)
  · simp [place]
  · -- The merged unit stands behind all others, so an older position in the table was there before.
    obtain ⟨y, yMember, same⟩ := List.mem_map.1 member
    split at same
    · exact absurd same.symm (Nat.ne_of_lt bound)
    · exact outside (same ▸ yMember)
  · exact unitAt_place s _ bound

/-- **An addition folds one more unit**, and touches no unit outside of the table. -/
theorem Holds.add (h : Holds s added) (there : i < s.units.size) :
    Holds (s.add i).2.1 (added ++ [s.unitAt i]) ∧ Keeps s (s.add i).2.1 i := by
  cases found : s.find? (s.unitAt i).key with
  | none => exact h.addNew there found
  | some j =>
      cases policy : s.policy with
      | firstWins => exact h.addFirstWins found policy
      | union => exact h.addUnion found policy

/-! ## Runs of additions -/

def addEach (s : Shelf) (is : List Nat) : Shelf := is.foldl (fun s i => (s.add i).2.1) s

def unitsAt (s : Shelf) (is : List Nat) : List (WorkUnit Value) := is.map s.unitAt

def under (s : Shelf) (policy : MergePolicy) (is : List Nat) : Shelf :=
  { s with policy }.addEach is

/-- **Additions of units outside of the table fold all of them.** -/
theorem Holds.addEach (h : Holds s added) (distinct : is.Nodup)
    (there : ∀ i ∈ is, i < s.units.size) (outside : ∀ i ∈ is, i ∉ s.table) :
    Holds (s.addEach is) (added ++ s.unitsAt is) ∧ (s.addEach is).policy = s.policy := by
  induction is generalizing s added with
  | nil => exact ⟨by rwa [unitsAt, List.map_nil, List.append_nil], rfl⟩
  | cons i is ih =>
      obtain ⟨fresh, distinct⟩ := List.nodup_cons.1 distinct
      obtain ⟨holds, keeps⟩ := h.add (there i List.mem_cons_self)
      -- What is still to be added is not `i` and not in the table, so it is as it was.
      have kept : ∀ j ∈ is, j ∉ (s.add i).2.1.table ∧ (s.add i).2.1.unitAt j = s.unitAt j := by
        intro j member
        have later := List.mem_cons_of_mem i member
        exact keeps.others j (there j later) (outside j later) fun same => fresh (same ▸ member)
      obtain ⟨folded, policy⟩ := ih holds distinct
        (fun j member => (there j (List.mem_cons_of_mem i member)).trans_le keeps.grows)
        fun j member => (kept j member).1
      refine ⟨?_, policy.trans keeps.policy⟩
      have same : (s.add i).2.1.unitsAt is = s.unitsAt is :=
        List.map_congr_left fun j member => (kept j member).2
      rwa [same, List.append_assoc, List.singleton_append] at folded

/-- What an empty table holds after additions. -/
theorem stored_under (empty : s.table = []) (distinct : is.Nodup)
    (there : ∀ i ∈ is, i < s.units.size) (policy : MergePolicy) :
    (s.under policy is).stored = policy.byKey present (s.unitsAt is) := by
  have start : Holds { s with policy } [] :=
    ⟨by simp [empty], by rw [Shelf.stored, empty]; rfl⟩
  obtain ⟨holds, same⟩ := start.addEach distinct there (by simp [empty])
  have stored := holds.stored
  rwa [same] at stored

/-- What an empty table holds once the units at the positions were added to it. -/
structure KeyedFold (s : Shelf) (is : List Nat) : Prop where
  /-- It holds one unit for every key, in the order in which the keys first came. -/
  keys : ∀ policy, (s.under policy is).keys = UnitKey.distinct ((s.unitsAt is).map WorkUnit.key)
  distinct : ∀ policy, (s.under policy is).keys.Nodup
  /-- Under `firstWins` the unit has all the items that came under its key, in order. -/
  items_firstWins : ∀ v ∈ (s.under .firstWins is).stored,
    v.items = (unitsUnder v.key (s.unitsAt is)).flatMap WorkUnit.items
  /-- Under `union` it has all of them, and, if several units came under the key, those of them
  that are present. -/
  items_union : ∀ v ∈ (s.under .union is).stored,
    v.items = if (unitsUnder v.key (s.unitsAt is)).length = 1
      then (unitsUnder v.key (s.unitsAt is)).flatMap WorkUnit.items
      else ((unitsUnder v.key (s.unitsAt is)).flatMap WorkUnit.items).filter present
  /-- When no item is absent, it has all of them under either policy. -/
  items_present : (∀ u ∈ s.unitsAt is, ∀ x ∈ u.items, present x = true) →
    ∀ policy, ∀ v ∈ (s.under policy is).stored,
      v.items = (unitsUnder v.key (s.unitsAt is)).flatMap WorkUnit.items
  /-- Under `union` its needs and its hardness are those of all units of the key. -/
  needs_union : ∀ v ∈ (s.under .union is).stored, ∀ k,
    k ∈ v.needs ↔ ∃ u ∈ unitsUnder v.key (s.unitsAt is), k ∈ u.needs
  hard_union : ∀ v ∈ (s.under .union is).stored,
    v.hard = (unitsUnder v.key (s.unitsAt is)).any WorkUnit.hard
  /-- Under `firstWins` they are those of the first one. -/
  first_firstWins : ∀ v ∈ (s.under .firstWins is).stored,
    ∃ u, (unitsUnder v.key (s.unitsAt is)).head? = some u ∧ v.needs = u.needs ∧ v.hard = u.hard
  /-- So the policies agree on the present items of every key, and `firstWins` needs less. -/
  agree : ∀ v ∈ (s.under .firstWins is).stored, ∀ w ∈ (s.under .union is).stored, v.key = w.key →
    v.items.filter present = w.items.filter present ∧ v.needs ⊆ w.needs
  /-- Under `union` another order of additions gives every key the same needs and hardness. -/
  orderless : ∀ js : List Nat, js.Perm is → ∀ v ∈ (s.under .union is).stored,
    ∃ w ∈ (s.under .union js).stored,
      w.key = v.key ∧ w.hard = v.hard ∧ ∀ k, k ∈ w.needs ↔ k ∈ v.needs

/-- **A table is a fold over the units that were added to it, key by key.** -/
theorem keyed_fold (empty : s.table = []) (distinct : is.Nodup)
    (there : ∀ i ∈ is, i < s.units.size) : KeyedFold s is := by
  have stored := stored_under empty distinct there
  have keys : ∀ policy, (s.under policy is).keys =
      (policy.byKey present (s.unitsAt is)).map WorkUnit.key := by
    intro policy
    rw [Shelf.keys, stored]
  have merged : ∀ policy, ∀ v ∈ (s.under policy is).stored,
      MergePolicy.merged policy present (unitsUnder v.key (s.unitsAt is)) = some v := by
    intro policy v member
    rw [stored] at member
    exact MergePolicy.mem_byKey.1 member
  refine
    { keys := fun policy => (keys policy).trans (MergePolicy.keys_byKey policy present _)
      distinct := fun policy => keys policy ▸ MergePolicy.keys_byKey_nodup policy present _
      items_firstWins := fun v member => MergePolicy.items_merged_firstWins (merged _ v member)
      items_union := fun v member => MergePolicy.items_merged_union (merged _ v member)
      items_present := fun noneAbsent policy v member => ?_
      needs_union := fun v member => MergePolicy.needs_merged_union (merged _ v member)
      hard_union := fun v member => MergePolicy.hard_merged_union (merged _ v member)
      first_firstWins := fun v member => MergePolicy.head_merged_firstWins (merged _ v member)
      agree := fun v vMember w wMember same => ?_
      orderless := fun js perm v member => ?_ }
  · have all : ((unitsUnder v.key (s.unitsAt is)).flatMap WorkUnit.items).filter present =
        (unitsUnder v.key (s.unitsAt is)).flatMap WorkUnit.items := by
      refine List.filter_eq_self.2 fun x inItems => ?_
      obtain ⟨u, came, inUnit⟩ := List.mem_flatMap.1 inItems
      exact noneAbsent u (mem_unitsUnder.1 came).1 x inUnit
    cases policy with
    | firstWins => exact MergePolicy.items_merged_firstWins (merged _ v member)
    | union =>
        rw [MergePolicy.items_merged_union (merged _ v member), all, ite_self]
  · rw [stored] at vMember wMember
    exact MergePolicy.byKey_agree vMember wMember same
  · rw [stored] at member
    have otherThere : ∀ i ∈ js, i < s.units.size := fun i inOther => there i (perm.mem_iff.1 inOther)
    rw [stored_under empty (perm.nodup_iff.2 distinct) otherThere]
    exact MergePolicy.byKey_perm (perm.map s.unitAt) member

end Marking.UnitTable.Shelf

namespace Marking.Sample

open UnitTable

/-- Two units of one key; an item that is absent was added to the first one. -/
def absentShelf : Shelf :=
  let first := (({} : Shelf).create ⟨"a", .type⟩ [] [] false).2
  ((first.addItem 0 .null).create ⟨"a", .type⟩ [] [] false).2

/-- Under `union` the absent item is lost when the second unit comes, and under `firstWins` it is
not: the items are not all of those that were added, and the policies do not agree on them. -/
theorem absent_item_lost :
    (absentShelf.under .union [0, 1]).stored.map (fun v => v.items.length) = [0] ∧
      (absentShelf.under .firstWins [0, 1]).stored.map (fun v => v.items.length) = [1] ∧
      ((absentShelf.unitsAt [0, 1]).flatMap WorkUnit.items).length = 1 := by
  decide

/-- Units of two keys.  Those of `a` need different units, only the second one is hard, and an
absent item was added to the first one. -/
def needyShelf : Shelf :=
  let a : UnitKey := ⟨"a", .type⟩
  let first := (({} : Shelf).create a [.str "one"] [⟨"left", .type⟩] false).2
  let second := ((first.addItem 0 .null).create ⟨"b", .type⟩ [.str "two"] [a] true).2
  (second.create a [.str "three"] [⟨"right", .method⟩] true).2

/-- Under `union` both needs of `a` and its hardness are kept, under `firstWins` those of its first
unit only. -/
theorem absent_folded :
    (needyShelf.under .union [0, 1, 2]).stored.map (fun v => (v.items.length, v.needs.length, v.hard))
        = [(2, 2, true), (1, 1, true)] ∧
      (needyShelf.under .firstWins [0, 1, 2]).stored.map
          (fun v => (v.items.length, v.needs.length, v.hard)) = [(3, 1, false), (1, 1, true)] ∧
      needyShelf.KeyedFold [0, 1, 2] :=
  ⟨by decide, by decide, Shelf.keyed_fold rfl (by decide) (by decide)⟩

end Marking.Sample
