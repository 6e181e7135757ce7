/-
# Marking.Proofs.UnitTable.KeyedFold -- the units of a table as a function of what came

A table takes units one after the other (`MergePolicy.insert`).  What it holds in the end can be
said without the order of the steps: for every key, in the order in which keys first came, the
units that came under it, folded from the first one on (`MergePolicy.byKey`).  The two go together
step by step (`MergePolicy.insert_byKey`), whatever counts as an item.

The fold itself has a closed form under either policy.  Under `firstWins` the first unit takes the
items of the later ones and keeps all else; under `union` needs and hardness are joined, and the
items are put together anew, so that those that are not present are left out.
-/
import Marking.Proofs.UnitTable.Fold

set_option autoImplicit false

namespace Marking

variable {α : Type}

namespace MergePolicy

/-- The units that came under one key, folded into the first of them. -/
def merged (policy : MergePolicy) (present : α → Bool) : List (WorkUnit α) → Option (WorkUnit α)
  | [] => none
  | first :: later => some (later.foldl (policy.fold present) first)

/-- One unit for every key, in the order in which the keys first came. -/
def byKey (policy : MergePolicy) (present : α → Bool) (added : List (WorkUnit α)) :
    List (WorkUnit α) :=
  (UnitKey.distinct (added.map WorkUnit.key)).filterMap fun k =>
    policy.merged present (unitsUnder k added)

/-- Puts a unit under a new key last, or folds it into the unit under its key. -/
def insert (policy : MergePolicy) (present : α → Bool) (us : List (WorkUnit α)) (u : WorkUnit α) :
    List (WorkUnit α) :=
  match us.find? fun v => v.key = u.key with
  | none => us ++ [u]
  | some stored => us.map fun v => if v.key = u.key then policy.fold present stored u else v

variable {policy : MergePolicy} {present : α → Bool} {added came later : List (WorkUnit α)}
  {first u v : WorkUnit α}

/-! ## The units of one key -/

/-- Under `firstWins` the first unit takes the items of the later ones, and nothing else. -/
theorem foldl_firstWins (present : α → Bool) (later : List (WorkUnit α)) (first : WorkUnit α) :
    later.foldl (firstWins.fold present) first =
      { first with items := first.items ++ later.flatMap WorkUnit.items } := by
  induction later generalizing first with
  | nil => simp
  | cons u later ih =>
      rw [List.foldl_cons, ih]
      simp [fold]

/-- Under `union` the items are put together anew as soon as there is a later unit. -/
theorem items_foldl_union (some : later ≠ []) (first : WorkUnit α) :
    (later.foldl (union.fold present) first).items =
      (first.items ++ later.flatMap WorkUnit.items).filter present := by
  induction later generalizing first with
  | nil => exact absurd rfl some
  | cons u later ih =>
      rw [List.foldl_cons]
      -- The last fold filters, and filtering twice is filtering once.
      by_cases more : later = []
      · simp [more, fold, WorkUnit.join]
      · rw [ih more]
        simp [fold, WorkUnit.join]

theorem mem_needs_foldl_union (k : UnitKey) (later : List (WorkUnit α)) (first : WorkUnit α) :
    k ∈ (later.foldl (union.fold present) first).needs ↔ ∃ u ∈ first :: later, k ∈ u.needs := by
  induction later generalizing first with
  | nil => simp
  | cons u later ih =>
      rw [List.foldl_cons, ih]
      simp [fold, WorkUnit.join, UnitKey.mem_union, or_assoc]

theorem hard_foldl_union (later : List (WorkUnit α)) (first : WorkUnit α) :
    (later.foldl (union.fold present) first).hard = (first :: later).any WorkUnit.hard := by
  induction later generalizing first with
  | nil => simp
  | cons u later ih =>
      rw [List.foldl_cons, ih]
      simp [fold, WorkUnit.join, Bool.or_assoc]

theorem merged_eq_none_iff : policy.merged present came = none ↔ came = [] := by
  cases came <;> simp [merged]

theorem merged_eq_some (is : policy.merged present came = some v) :
    ∃ first later, came = first :: later ∧ v = later.foldl (policy.fold present) first := by
  cases came with
  | nil => cases is
  | cons first later => exact ⟨first, later, rfl, (Option.some.inj is).symm⟩

theorem key_merged {k : UnitKey} (under : ∀ u ∈ came, u.key = k)
    (is : policy.merged present came = some v) : v.key = k := by
  obtain ⟨first, later, rfl, rfl⟩ := merged_eq_some is
  refine Eq.trans ?_ (under first List.mem_cons_self)
  clear is under
  induction later generalizing first with
  | nil => rfl
  | cons u later ih => exact (ih _).trans (policy.key_fold present first u)

theorem merged_snoc (is : policy.merged present came = some v) (u : WorkUnit α) :
    policy.merged present (came ++ [u]) = some (policy.fold present v u) := by
  obtain ⟨first, later, rfl, rfl⟩ := merged_eq_some is
  rw [List.cons_append, merged, List.foldl_append]
  rfl

theorem items_merged_firstWins (is : firstWins.merged present came = some v) :
    v.items = came.flatMap WorkUnit.items := by
  obtain ⟨first, later, rfl, rfl⟩ := merged_eq_some is
  rw [foldl_firstWins, List.flatMap_cons]

theorem head_merged_firstWins (is : firstWins.merged present came = some v) :
    ∃ u, came.head? = some u ∧ v.needs = u.needs ∧ v.hard = u.hard := by
  obtain ⟨first, later, rfl, rfl⟩ := merged_eq_some is
  rw [foldl_firstWins]
  exact ⟨first, rfl, rfl, rfl⟩

/-- Under `union` a single unit stays what it is, and of several the items that are present are
kept. -/
theorem items_merged_union (is : union.merged present came = some v) :
    v.items = if came.length = 1 then came.flatMap WorkUnit.items
      else (came.flatMap WorkUnit.items).filter present := by
  obtain ⟨first, later, rfl, rfl⟩ := merged_eq_some is
  cases later with
  | nil => simp
  | cons u later =>
      rw [items_foldl_union (List.cons_ne_nil u later), if_neg (by simp), ← List.flatMap_cons]

theorem needs_merged_union (is : union.merged present came = some v) (k : UnitKey) :
    k ∈ v.needs ↔ ∃ u ∈ came, k ∈ u.needs := by
  obtain ⟨first, later, rfl, rfl⟩ := merged_eq_some is
  exact mem_needs_foldl_union k later first

theorem hard_merged_union (is : union.merged present came = some v) :
    v.hard = came.any WorkUnit.hard := by
  obtain ⟨first, later, rfl, rfl⟩ := merged_eq_some is
  exact hard_foldl_union later first

/-- Either policy keeps the items that are present. -/
theorem present_items_merged (is : policy.merged present came = some v) :
    v.items.filter present = (came.flatMap WorkUnit.items).filter present := by
  cases policy with
  | union =>
      rw [items_merged_union is]
      split
      · rfl
      · rw [List.filter_filter]
        simp only [Bool.and_self]
  | firstWins => rw [items_merged_firstWins is]

/-! ## All keys -/

theorem exists_merged (policy : MergePolicy) (present : α → Bool) {k : UnitKey}
    (known : k ∈ added.map WorkUnit.key) :
    ∃ v, policy.merged present (unitsUnder k added) = some v ∧ v.key = k := by
  obtain ⟨u, member, rfl⟩ := List.mem_map.1 known
  cases is : policy.merged present (unitsUnder u.key added) with
  | none =>
      have under := mem_unitsUnder.2 ⟨member, rfl⟩
      rw [merged_eq_none_iff.1 is] at under
      cases under
  | some v => exact ⟨v, rfl, key_merged (fun w inCame => (mem_unitsUnder.1 inCame).2) is⟩

/-- A unit of the table is what came under its key, folded. -/
theorem mem_byKey : v ∈ policy.byKey present added ↔
    policy.merged present (unitsUnder v.key added) = some v := by
  rw [byKey, List.mem_filterMap]
  constructor
  · rintro ⟨k, -, is⟩
    rwa [key_merged (fun u inCame => (mem_unitsUnder.1 inCame).2) is]
  · intro is
    refine ⟨v.key, UnitKey.mem_distinct.2 ?_, is⟩
    by_contra unknown
    rw [unitsUnder_eq_nil unknown] at is
    cases is

theorem keys_byKey (policy : MergePolicy) (present : α → Bool) (added : List (WorkUnit α)) :
    (policy.byKey present added).map WorkUnit.key = UnitKey.distinct (added.map WorkUnit.key) := by
  rw [byKey, List.map_filterMap]
  refine (List.filterMap_congr fun k member => ?_).trans List.filterMap_some
  obtain ⟨v, is, key⟩ := exists_merged policy present (UnitKey.mem_distinct.1 member)
  rw [is, Option.map_some, key]

theorem keys_byKey_nodup (policy : MergePolicy) (present : α → Bool) (added : List (WorkUnit α)) :
    ((policy.byKey present added).map WorkUnit.key).Nodup := by
  rw [keys_byKey]
  exact UnitKey.distinct_nodup _

theorem find?_byKey (k : UnitKey) :
    (policy.byKey present added).find? (fun v => v.key = k) =
      policy.merged present (unitsUnder k added) := by
  cases found : (policy.byKey present added).find? (fun v => v.key = k) with
  | some v =>
      have key : v.key = k := by simpa using List.find?_some found
      have is := mem_byKey.1 (List.mem_of_find?_eq_some found)
      rw [← is, key]
  | none =>
      cases is : policy.merged present (unitsUnder k added) with
      | none => rfl
      | some v =>
          have key := key_merged (fun u inCame => (mem_unitsUnder.1 inCame).2) is
          have member : v ∈ policy.byKey present added := mem_byKey.2 (key.symm ▸ is)
          exact absurd (decide_eq_true key) (List.find?_eq_none.1 found v member)

/-- What comes under a new key is the last unit. -/
theorem byKey_snoc_of_new (new : u.key ∉ added.map WorkUnit.key) :
    policy.byKey present (added ++ [u]) = policy.byKey present added ++ [u] := by
  rw [byKey, List.map_append, List.map_singleton, UnitKey.distinct_snoc,
    if_neg (mt UnitKey.mem_distinct.1 new), List.filterMap_append]
  congr 1
  · -- The older keys differ from the new one, so what is under them is what was.
    refine List.filterMap_congr fun k member => ?_
    have other : u.key ≠ k := fun same => new (same ▸ UnitKey.mem_distinct.1 member)
    rw [unitsUnder_snoc_of_ne added other]
  · rw [List.filterMap_cons, unitsUnder_snoc_self, unitsUnder_eq_nil new]
    rfl

/-- What comes under a known key goes into the unit under it, and moves nothing. -/
theorem byKey_snoc_of_known (is : policy.merged present (unitsUnder u.key added) = some v) :
    policy.byKey present (added ++ [u]) =
      (policy.byKey present added).map fun w =>
        if w.key = u.key then policy.fold present v u else w := by
  have known : u.key ∈ added.map WorkUnit.key := by
    by_contra unknown
    rw [unitsUnder_eq_nil unknown] at is
    cases is
  rw [byKey, byKey, List.map_append, List.map_singleton, UnitKey.distinct_snoc,
    if_pos (UnitKey.mem_distinct.2 known), List.map_filterMap]
  refine List.filterMap_congr fun k member => ?_
  obtain ⟨w, isUnder, key⟩ := exists_merged policy present (UnitKey.mem_distinct.1 member)
  rw [isUnder, Option.map_some, key]
  by_cases same : k = u.key
  · rw [if_pos same, same, unitsUnder_snoc_self, merged_snoc is]
  · rw [if_neg same, unitsUnder_snoc_of_ne added (Ne.symm same), isUnder]

/-- **An insertion is one more unit that came.** -/
theorem insert_byKey (policy : MergePolicy) (present : α → Bool) (added : List (WorkUnit α))
    (u : WorkUnit α) :
    policy.insert present (policy.byKey present added) u =
      policy.byKey present (added ++ [u]) := by
  rw [insert, find?_byKey]
  cases is : policy.merged present (unitsUnder u.key added) with
  | none =>
      refine (byKey_snoc_of_new fun known => ?_).symm
      obtain ⟨v, isSome, -⟩ := exists_merged policy present known
      rw [is] at isSome
      cases isSome
  | some v => exact (byKey_snoc_of_known is).symm

/-! ## The policies beside each other -/

variable {us vs : List (WorkUnit α)} {w : WorkUnit α}

/-- Under one key the policies keep the same present items, and what is needed under `firstWins`
is needed under `union`. -/
theorem byKey_agree (vMember : v ∈ firstWins.byKey present us)
    (wMember : w ∈ union.byKey present us) (same : v.key = w.key) :
    v.items.filter present = w.items.filter present ∧ v.needs ⊆ w.needs := by
  have isFirst := mem_byKey.1 vMember
  have isUnion := mem_byKey.1 wMember
  rw [← same] at isUnion
  refine ⟨(present_items_merged isFirst).trans (present_items_merged isUnion).symm, fun k need => ?_⟩
  obtain ⟨first, head, needs, -⟩ := head_merged_firstWins isFirst
  rw [needs] at need
  exact (needs_merged_union isUnion k).2 ⟨first, List.mem_of_head? head, need⟩

/-- Under `union` the order of what came matters neither for needs nor for hardness. -/
theorem byKey_perm (perm : vs.Perm us) (member : v ∈ union.byKey present us) :
    ∃ w ∈ union.byKey present vs,
      w.key = v.key ∧ w.hard = v.hard ∧ ∀ k, k ∈ w.needs ↔ k ∈ v.needs := by
  have isUnion := mem_byKey.1 member
  have known : v.key ∈ vs.map WorkUnit.key := by
    have inUnits := List.mem_map_of_mem (f := WorkUnit.key) member
    rw [keys_byKey, UnitKey.mem_distinct] at inUnits
    exact (perm.map WorkUnit.key).mem_iff.2 inUnits
  obtain ⟨w, is, key⟩ := exists_merged union present known
  have came : (unitsUnder v.key vs).Perm (unitsUnder v.key us) := perm.filter _
  refine ⟨w, mem_byKey.2 (key ▸ is), key, ?_, fun k => ?_⟩
  · rw [hard_merged_union is, hard_merged_union isUnion]
    exact came.any_eq
  · rw [needs_merged_union is, needs_merged_union isUnion]
    exact exists_congr fun u => and_congr_left' came.mem_iff

end MergePolicy

end Marking
