/-
# Marking.Proofs.Key.Distinct -- keys at their first places

A list without its repetitions keeps everything at its first place, so it grows by what is new when
something is added behind it (`eraseDups_snoc`), and it comes in the order of these places
(`pairwise_idxOf`).  Keys without repetitions are such a list (`UnitKey.distinct_eq`).
-/
import Mathlib.Data.List.Induction
import Mathlib.Data.List.Nodup
import Marking.Key

set_option autoImplicit false

namespace Marking

section Places

variable {α : Type} [DecidableEq α]

theorem eraseDups_snoc (xs : List α) (x : α) :
    (xs ++ [x]).eraseDups = if x ∈ xs then xs.eraseDups else xs.eraseDups ++ [x] := by
  rw [List.eraseDups_append, List.removeAll, List.filter_singleton]
  by_cases known : x ∈ xs <;> simp [known, List.eraseDups_cons]

theorem nodup_eraseDups (xs : List α) : xs.eraseDups.Nodup := by
  induction xs using List.reverseRecOn with
  | nil => exact List.nodup_nil
  | append_singleton xs x ih =>
      rw [eraseDups_snoc]
      split
      · exact ih
      · next isNew => exact List.concat_eq_append ▸ ih.concat (mt List.mem_eraseDups.1 isNew)

/-- Without repetitions, what comes earlier has the smaller place. -/
theorem pairwise_idxOf {xs : List α} (nodup : xs.Nodup) :
    xs.Pairwise fun x y => xs.idxOf x < xs.idxOf y := by
  rw [List.pairwise_iff_getElem]
  intro i j iInside jInside lt
  rwa [nodup.idxOf_getElem i iInside, nodup.idxOf_getElem j jInside]

end Places

namespace UnitKey

variable {ks : List UnitKey} {k : UnitKey}

theorem distinct_snoc (ks : List UnitKey) (k : UnitKey) :
    distinct (ks ++ [k]) = if k ∈ distinct ks then distinct ks else distinct ks ++ [k] := by
  rw [distinct, List.foldl_append]
  rfl

theorem distinct_eq (ks : List UnitKey) : distinct ks = ks.eraseDups := by
  induction ks using List.reverseRecOn with
  | nil => rfl
  | append_singleton ks k ih =>
      rw [distinct_snoc, eraseDups_snoc, ih]
      simp only [List.mem_eraseDups]

theorem mem_distinct : k ∈ distinct ks ↔ k ∈ ks := by
  rw [distinct_eq, List.mem_eraseDups]

theorem distinct_nodup (ks : List UnitKey) : (distinct ks).Nodup :=
  distinct_eq ks ▸ nodup_eraseDups ks

end UnitKey

end Marking
