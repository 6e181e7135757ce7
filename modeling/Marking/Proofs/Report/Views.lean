/-
# Marking.Proofs.Report.Views -- what a view by name keeps

The views of a report are dictionaries by the names of markers.  A dictionary keeps every name
once, with the last value that was given for it (`mem_byName_iff`); so it keeps all values
exactly when no name comes twice (`total_byName`).  Of a report this means that the views show,
for every name, the last entry with work left, and count all of the work left exactly when the
names of these entries differ.
-/
import Mathlib.Algebra.GroupWithZero.Nat
import Mathlib.Data.List.Induction
import Mathlib.Data.List.Nodup
import Marking.Report

set_option autoImplicit false

namespace Marking

variable {α : Type}

/-! ## The last of a name -/

/-- The element is the last one in the list with its name. -/
def LastOf {β : Type} (name : β → String) (xs : List β) (x : β) : Prop :=
  ∃ front back, xs = front ++ x :: back ∧ ∀ y ∈ back, name y ≠ name x

theorem lastOf_snoc {β : Type} {name : β → String} {xs : List β} {x z : β} :
    LastOf name (xs ++ [z]) x ↔ x = z ∨ LastOf name xs x ∧ name x ≠ name z := by
  constructor
  · rintro ⟨front, back, split, last⟩
    rcases List.eq_nil_or_concat back with rfl | ⟨init, y, rfl⟩
    · exact Or.inl (List.cons.inj (List.append_inj' split rfl).2).1.symm
    · rw [List.concat_eq_append, ← List.cons_append, ← List.append_assoc] at split
      obtain ⟨rfl, isLast⟩ := List.append_inj' split rfl
      obtain rfl : z = y := List.singleton_inj.1 isLast
      refine Or.inr ⟨⟨front, init, rfl, fun k member => last k ?_⟩, (last z ?_).symm⟩
      · simp [member]
      · simp
  · rintro (rfl | ⟨⟨front, back, rfl, last⟩, differ⟩)
    · exact ⟨xs, [], rfl, fun y member => nomatch member⟩
    · refine ⟨front, back ++ [z], by simp, fun y member => ?_⟩
      rcases List.mem_append.1 member with inBack | isLast
      · exact last y inBack
      · rw [List.mem_singleton.1 isLast]
        exact differ.symm

/-- Elements named alike are last together. -/
theorem lastOf_map {β γ : Type} {name : β → String} {name' : γ → String} {f : β → γ}
    (same : ∀ x, name' (f x) = name x) {xs : List β} {p : γ} :
    LastOf name' (xs.map f) p ↔ ∃ x, LastOf name xs x ∧ p = f x := by
  constructor
  · rintro ⟨front, back, split, last⟩
    obtain ⟨before, rest, rfl, rfl, tail⟩ := List.map_eq_append_iff.1 split
    obtain ⟨x, after, rfl, rfl, rfl⟩ := List.map_eq_cons_iff.1 tail
    refine ⟨x, ⟨before, after, rfl, fun y member => ?_⟩, rfl⟩
    have differ := last (f y) (List.mem_map_of_mem member)
    rwa [same, same] at differ
  · rintro ⟨x, ⟨front, back, rfl, last⟩, rfl⟩
    refine ⟨front.map f, back.map f, by simp, fun q member => ?_⟩
    obtain ⟨y, inBack, rfl⟩ := List.mem_map.1 member
    rw [same, same]
    exact last y inBack

/-! ## Dictionaries by name -/

def store (kept : List (String × α)) (e : String × α) : List (String × α) :=
  if kept.any (fun k => k.1 == e.1) then kept.map fun k => if k.1 == e.1 then e else k
  else kept ++ [e]

theorem byName_snoc (es : List (String × α)) (e : String × α) :
    byName (es ++ [e]) = store (byName es) e :=
  List.foldl_append

variable {kept es : List (String × α)} {e p : String × α}

theorem store_of_new (new : ∀ k ∈ kept, k.1 ≠ e.1) : store kept e = kept ++ [e] := by
  have none : kept.any (fun k => k.1 == e.1) = false := by
    rw [List.any_eq_false]
    exact fun k member => by simpa using new k member
  rw [store, if_neg (by rw [none]; exact Bool.false_ne_true)]

/-- The value of a known name is replaced where it stands. -/
theorem store_of_known {old : String × α} {left right : List (String × α)}
    (known : old.1 = e.1) (inLeft : ∀ k ∈ left, k.1 ≠ e.1) (inRight : ∀ k ∈ right, k.1 ≠ e.1) :
    store (left ++ old :: right) e = left ++ e :: right := by
  have there : (left ++ old :: right).any (fun k => k.1 == e.1) = true := by
    simp [known]
  have same : ∀ {ks : List (String × α)}, (∀ k ∈ ks, k.1 ≠ e.1) →
      (ks.map fun k => if k.1 == e.1 then e else k) = ks := by
    intro ks others
    refine (List.map_congr_left fun k member => ?_).trans (List.map_id ks)
    exact if_neg (by simpa using others k member)
  rw [store, if_pos there, List.map_append, List.map_cons, same inLeft, same inRight,
    if_pos (beq_iff_eq.2 known)]

/-- A name is new to a dictionary, or it stands at one place there. -/
theorem new_or_known (distinct : (kept.map Prod.fst).Nodup) (e : String × α) :
    (∀ k ∈ kept, k.1 ≠ e.1) ∨
      ∃ left old right, kept = left ++ old :: right ∧ old.1 = e.1 ∧ (∀ k ∈ left, k.1 ≠ e.1) ∧
        ∀ k ∈ right, k.1 ≠ e.1 := by
  by_cases known : ∃ old ∈ kept, old.1 = e.1
  · obtain ⟨old, member, same⟩ := known
    obtain ⟨left, right, rfl⟩ := List.append_of_mem member
    rw [List.map_append, List.map_cons, List.nodup_middle, List.nodup_cons, List.mem_append]
      at distinct
    refine Or.inr ⟨left, old, right, rfl, same, fun k inLeft => ?_, fun k inRight => ?_⟩
    · exact fun eq => distinct.1 (Or.inl (List.mem_map.2 ⟨k, inLeft, eq.trans same.symm⟩))
    · exact fun eq => distinct.1 (Or.inr (List.mem_map.2 ⟨k, inRight, eq.trans same.symm⟩))
  · exact Or.inl fun k member eq => known ⟨k, member, eq⟩

theorem mem_store_iff (distinct : (kept.map Prod.fst).Nodup) :
    p ∈ store kept e ↔ p = e ∨ p ∈ kept ∧ p.1 ≠ e.1 := by
  rcases new_or_known distinct e with new | ⟨left, old, right, rfl, known, inLeft, inRight⟩
  · rw [store_of_new new, List.mem_append, List.mem_singleton]
    constructor
    · rintro (member | rfl)
      · exact Or.inr ⟨member, new p member⟩
      · exact Or.inl rfl
    · rintro (rfl | ⟨member, -⟩)
      · exact Or.inr rfl
      · exact Or.inl member
  · rw [store_of_known known inLeft inRight, List.mem_append, List.mem_cons, List.mem_append,
      List.mem_cons]
    constructor
    · rintro (member | rfl | member)
      · exact Or.inr ⟨Or.inl member, inLeft p member⟩
      · exact Or.inl rfl
      · exact Or.inr ⟨Or.inr (Or.inr member), inRight p member⟩
    · rintro (rfl | ⟨member | rfl | member, differ⟩)
      · exact Or.inr (Or.inl rfl)
      · exact Or.inl member
      · exact absurd known differ
      · exact Or.inr (Or.inr member)

theorem names_store_nodup (distinct : (kept.map Prod.fst).Nodup) (e : String × α) :
    ((store kept e).map Prod.fst).Nodup := by
  rcases new_or_known distinct e with new | ⟨left, old, right, rfl, known, inLeft, inRight⟩
  · rw [store_of_new new, List.map_append, List.nodup_append]
    refine ⟨distinct, List.nodup_singleton _, fun n inKept m isNew same => ?_⟩
    obtain ⟨k, member, rfl⟩ := List.mem_map.1 inKept
    exact new k member (same.trans (List.mem_singleton.1 isNew))
  · rw [List.map_append, List.map_cons, known] at distinct
    rwa [store_of_known known inLeft inRight, List.map_append, List.map_cons]

/-- Every name comes once. -/
theorem names_byName_nodup (es : List (String × α)) : ((byName es).map Prod.fst).Nodup := by
  induction es using List.reverseRecOn with
  | nil => exact List.nodup_nil
  | append_singleton es e ih =>
      rw [byName_snoc]
      exact names_store_nodup ih e

/-- **A dictionary has the last value for every name.** -/
theorem mem_byName_iff : p ∈ byName es ↔ LastOf Prod.fst es p := by
  induction es using List.reverseRecOn with
  | nil =>
      constructor
      · intro member
        cases member
      · rintro ⟨front, back, split, -⟩
        exact absurd split.symm (by simp)
  | append_singleton es e ih =>
      rw [byName_snoc, mem_store_iff (names_byName_nodup es), ih, lastOf_snoc]

/-- A name is in the dictionary when it was given a value. -/
theorem name_mem_byName {n : String} : n ∈ (byName es).map Prod.fst ↔ n ∈ es.map Prod.fst := by
  induction es using List.reverseRecOn with
  | nil => exact Iff.rfl
  | append_singleton es e ih =>
      rw [byName_snoc, List.map_append, List.mem_append, ← ih]
      rcases new_or_known (names_byName_nodup es) e with new |
        ⟨left, old, right, split, known, inLeft, inRight⟩
      · rw [store_of_new new, List.map_append, List.mem_append]
      · have names : (store (byName es) e).map Prod.fst = (byName es).map Prod.fst := by
          rw [split, store_of_known known inLeft inRight, List.map_append, List.map_append,
            List.map_cons, List.map_cons, known]
        rw [names]
        refine ⟨Or.inl, fun either => either.elim id fun isNew => ?_⟩
        rw [List.map_singleton, List.mem_singleton] at isNew
        rw [isNew, ← known]
        exact List.mem_map_of_mem (split ▸ by simp)

/-- Values without a repeated name are all kept, in order. -/
theorem byName_of_distinct (distinct : (es.map Prod.fst).Nodup) : byName es = es := by
  induction es using List.reverseRecOn with
  | nil => rfl
  | append_singleton es e ih =>
      rw [List.map_append, List.nodup_append] at distinct
      obtain ⟨before, -, apart⟩ := distinct
      rw [byName_snoc, ih before]
      refine store_of_new fun k member same => ?_
      exact apart k.1 (List.mem_map_of_mem member) e.1 (List.mem_singleton_self _) same

/-- The weights of a dictionary make up no more than those of all values that were given, and
less when a name was repeated. -/
theorem total_byName (f : String × α → Nat) (positive : ∀ p ∈ es, 0 < f p) :
    ((byName es).map f).sum ≤ (es.map f).sum ∧
      (((byName es).map f).sum = (es.map f).sum → (es.map Prod.fst).Nodup) := by
  induction es using List.reverseRecOn with
  | nil => exact ⟨Nat.le_refl 0, fun _ => List.nodup_nil⟩
  | append_singleton es e ih =>
      obtain ⟨bound, distinct⟩ := ih fun p member => positive p (List.mem_append_left _ member)
      rw [byName_snoc, List.map_append, List.map_singleton, List.sum_append, List.sum_singleton]
      rcases new_or_known (names_byName_nodup es) e with new |
        ⟨left, old, right, split, known, inLeft, inRight⟩
      · rw [store_of_new new, List.map_append, List.map_singleton, List.sum_append,
          List.sum_singleton]
        refine ⟨by omega, fun same => ?_⟩
        have first : (es.map Prod.fst).Nodup := distinct (by omega)
        have fresh : e.1 ∉ es.map Prod.fst := by
          rw [← name_mem_byName]
          rintro member
          obtain ⟨k, inKept, eq⟩ := List.mem_map.1 member
          exact new k inKept eq
        rw [List.map_append, List.map_singleton]
        exact first.append (List.nodup_singleton _) (by simpa using fresh)
      · have weighs : 0 < f old := by
          have member : old ∈ byName es := split ▸ by simp
          obtain ⟨front, back, given, -⟩ := mem_byName_iff.1 member
          exact positive old (List.mem_append_left _ (given ▸ by simp))
        have replaced : ((store (byName es) e).map f).sum + f old =
            ((byName es).map f).sum + f e := by
          rw [split, store_of_known known inLeft inRight]
          simp only [List.map_append, List.map_cons, List.sum_append, List.sum_cons]
          omega
        exact ⟨by omega, fun same => absurd same (by omega)⟩

/-! ## Reports -/

theorem Fault.pendingCount_eq (ps : List (String × List UnitKey)) :
    pendingCount ps = (ps.map fun p => p.2.length).sum := by
  have count : ∀ n, ps.foldl (fun count p => count + p.2.length) n =
      n + (ps.map fun p => p.2.length).sum := by
    induction ps with
    | nil => exact fun n => rfl
    | cons p ps ih =>
        intro n
        rw [List.foldl_cons, ih, List.map_cons, List.sum_cons, Nat.add_assoc]
  rw [pendingCount, count, Nat.zero_add]

namespace Report

variable {r : Report}

/-- The view of what is left shows, for every name, the last entry with work left. -/
theorem mem_pending_iff {p : String × List UnitKey} :
    p ∈ r.pending ↔ ∃ s, LastOf EntrySummary.marker r.unfinished s ∧ p = (s.marker, s.pending) := by
  rw [pending, mem_byName_iff, lastOf_map]
  exact fun s => rfl

/-- And so does the view of the failures. -/
theorem mem_failures_iff {p : String × List Failure} :
    p ∈ r.failures ↔ ∃ s, LastOf EntrySummary.marker r.unfinished s ∧ p = (s.marker, s.errors) := by
  rw [failures, mem_byName_iff, lastOf_map]
  exact fun s => rfl

/-- The keys that the entries list, those of finished entries among them. -/
theorem sum_unfinished (r : Report) :
    (r.unfinished.map fun s => s.pending.length).sum =
      (r.entries.map fun s => s.pending.length).sum := by
  rw [unfinished]
  induction r.entries with
  | nil => rfl
  | cons s ss ih =>
      rw [List.map_cons, List.sum_cons, ← ih, List.filter_cons]
      by_cases none : s.pending = []
      · simp [none]
      · rw [if_pos (by simpa using none), List.map_cons, List.sum_cons]

theorem names_unfinished (r : Report) {α : Type} (f : EntrySummary → α) :
    (r.unfinished.map fun s => (s.marker, f s)).map Prod.fst =
      r.unfinished.map EntrySummary.marker := by
  rw [List.map_map]
  rfl

/-- The view counts no more than the entries list, and as much when names differ. -/
theorem pendingCount_le (r : Report) :
    Fault.pendingCount r.pending ≤ (r.entries.map fun s => s.pending.length).sum ∧
      (Fault.pendingCount r.pending = (r.entries.map fun s => s.pending.length).sum ↔
        (r.unfinished.map EntrySummary.marker).Nodup) := by
  have positive : ∀ p ∈ r.unfinished.map (fun s => (s.marker, s.pending)), 0 < p.2.length := by
    intro p member
    obtain ⟨s, inUnfinished, rfl⟩ := List.mem_map.1 member
    have some := (List.mem_filter.1 inUnfinished).2
    exact List.length_pos_iff.2 fun none => by simp [show s.pending = [] from none] at some
  have given : ((r.unfinished.map fun s => (s.marker, s.pending)).map fun p => p.2.length).sum =
      (r.entries.map fun s => s.pending.length).sum := by
    rw [← sum_unfinished, List.map_map]
    rfl
  obtain ⟨bound, distinct⟩ := total_byName (fun p : String × List UnitKey => p.2.length) positive
  rw [given] at bound distinct
  rw [names_unfinished] at distinct
  rw [Fault.pendingCount_eq, pending]
  refine ⟨bound, distinct, fun nodup => ?_⟩
  rw [byName_of_distinct (by rwa [names_unfinished]), given]

end Report

end Marking
