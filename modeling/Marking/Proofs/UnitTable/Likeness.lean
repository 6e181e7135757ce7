/-
# Marking.Proofs.UnitTable.Likeness -- units of like work are merged alike

Merging looks at the keys and the needs of units and counts their items, but never looks into
an item.  So tables of units that differ in nothing but their items, and there only by like ones,
stay so when like units are added, and the same is noted on the way.
-/
import Marking.UnitTable
import Mathlib.Data.List.Forall2

set_option autoImplicit false

namespace Marking

variable {α β : Type} {D : α → β → Prop}

/-- The units differ in nothing but their items, and those are alike. -/
structure WorkUnit.Alike (D : α → β → Prop) (u : WorkUnit α) (v : WorkUnit β) : Prop where
  key : u.key = v.key
  items : List.Forall₂ D u.items v.items
  needs : u.needs = v.needs
  hard : u.hard = v.hard

/-- The tables differ in nothing but the items of their units. -/
structure UnitTable.Alike (D : α → β → Prop) (t : UnitTable α) (t' : UnitTable β) : Prop where
  policy : t.policy = t'.policy
  units : List.Forall₂ (WorkUnit.Alike D) t.units t'.units

variable {u u' : WorkUnit α} {v v' : WorkUnit β} {t : UnitTable α} {t' : UnitTable β}

theorem WorkUnit.Alike.join (stored : Alike D u v) (later : Alike D u' v') (union : Bool) :
    Alike D (WorkUnit.join union u u') (WorkUnit.join union v v') where
  key := stored.key
  items := List.rel_append stored.items later.items
  needs := by
    rw [WorkUnit.join, WorkUnit.join, stored.needs, later.needs]
  hard := by
    rw [WorkUnit.join, WorkUnit.join, stored.hard, later.hard]

theorem MergePolicy.fold_alike (policy : MergePolicy) (stored : WorkUnit.Alike D u v)
    (later : WorkUnit.Alike D u' v') :
    WorkUnit.Alike D (policy.fold (fun _ => true) u u') (policy.fold (fun _ => true) v v') := by
  cases policy with
  | union =>
      have joined := stored.join later true
      refine { joined with items := ?_ }
      simp only [fold, List.filter_true]
      exact joined.items
  | firstWins => exact { stored with items := List.rel_append stored.items later.items }

theorem MergePolicy.note_alike (policy : MergePolicy) (stored : WorkUnit.Alike D u v)
    (later : WorkUnit.Alike D u' v') : policy.note u u' = policy.note v v' := by
  cases policy with
  | union => rw [note, note, later.key, later.items.length_eq]
  | firstWins =>
      have same : dropped u u' = dropped v v' := by
        rw [dropped, dropped, stored.needs, later.needs]
      rw [note, note, same, later.key]

theorem find?_alike {us : List (WorkUnit α)} {vs : List (WorkUnit β)}
    (like : List.Forall₂ (WorkUnit.Alike D) us vs) (k : UnitKey) :
    Option.Rel (WorkUnit.Alike D) (us.find? fun u => u.key = k) (vs.find? fun v => v.key = k) := by
  induction like with
  | nil => exact .none
  | @cons u v us vs first _ ih =>
      rw [List.find?_cons, List.find?_cons, first.key]
      split
      · exact .some first
      · exact ih

theorem UnitTable.Alike.replace (h : Alike D t t') (like : WorkUnit.Alike D u v) :
    Alike D (t.replace u) (t'.replace v) where
  policy := h.policy
  units := by
    refine List.forall₂_map_left_iff.2 (List.forall₂_map_right_iff.2 (h.units.imp ?_))
    intro x y same
    rw [same.key, like.key]
    split
    · exact like
    · exact same

/-- Like units are added alike, and the same is noted. -/
theorem UnitTable.Alike.add (h : Alike D t t') (like : WorkUnit.Alike D u v) :
    Alike D (t.add u).1 (t'.add v).1 ∧ (t.add u).2 = (t'.add v).2 := by
  have found := find?_alike h.units u.key
  rw [UnitTable.add, UnitTable.add, get?, get?, ← like.key]
  generalize t.units.find? (fun x => x.key = u.key) = stored? at found ⊢
  generalize t'.units.find? (fun x => x.key = u.key) = stored?' at found ⊢
  cases found with
  | none => exact ⟨⟨h.policy, List.rel_append h.units (.cons like .nil)⟩, rfl⟩
  | some same =>
      rw [h.policy]
      exact ⟨h.replace (t'.policy.fold_alike same like), t'.policy.note_alike same like⟩

theorem UnitTable.Alike.addAll (h : Alike D t t') {us : List (WorkUnit α)} {vs : List (WorkUnit β)}
    (like : List.Forall₂ (WorkUnit.Alike D) us vs) :
    Alike D (t.addAll us).1 (t'.addAll vs).1 ∧ (t.addAll us).2 = (t'.addAll vs).2 := by
  induction like generalizing t t' with
  | nil => exact ⟨h, rfl⟩
  | cons first _ ih =>
      obtain ⟨added, noted⟩ := h.add first
      obtain ⟨rest, notedRest⟩ := ih added
      rw [UnitTable.addAll, UnitTable.addAll]
      exact ⟨rest, congrArg₂ (· ++ ·) noted notedRest⟩

end Marking
