/-
# Marking.Proofs.Codebase.Naming -- the names of a codebase

A dotted name is its components with dots between them, and the name above it is shorter, so the
names below a name are fewer the further below it lies (`deeper_child`).  The names of a codebase
are those of its modules and of everything above them, each once (`mem_names`, `names_nodup`).
-/
import Marking.Codebase.Loading

set_option autoImplicit false

namespace Marking

namespace Text

/-! ## Dotted names -/

variable {sep : Char} {name : String}

/-- The parts with the separator between them are the list. -/
theorem intercalate_splitAt (cs : List Char) : [sep].intercalate (splitAt sep cs) = cs := by
  induction cs with
  | nil => rfl
  | cons c cs ih =>
      rw [splitAt]
      cases parts : splitAt sep cs with
      | nil => exact absurd parts (splitAt_ne_nil sep cs)
      | cons part parts' =>
          rw [parts] at ih
          split
          · next isSep => rw [List.intercalate_cons_cons, ih, isSep]; rfl
          · rw [← ih]
            cases parts' with
            | nil => simp
            | cons next rest => simp [List.intercalate_cons_cons]

theorem intercalate_components (name : String) : ".".intercalate (components name) = name := by
  have same : (components name).map String.toList = splitAt '.' name.toList := by
    simp [components, Function.comp_def]
  rw [← String.toList_inj, String.toList_intercalate, same]
  exact intercalate_splitAt name.toList

theorem intercalate_dropLast_prefix (dot : List Char) (parts : List (List Char)) :
    dot.intercalate parts.dropLast <+: dot.intercalate parts := by
  induction parts with
  | nil => exact List.prefix_rfl
  | cons part parts ih =>
      cases parts with
      | nil => simp
      | cons next rest =>
          rw [List.dropLast_cons_cons, List.intercalate_cons_cons]
          cases inner : (next :: rest).dropLast with
          | nil => simp [List.append_assoc]
          | cons a as =>
              rw [List.intercalate_cons_cons, ← inner, List.append_assoc, List.append_assoc]
              exact (List.prefix_append_right_inj _).2 ((List.prefix_append_right_inj _).2 ih)

/-- The name above a name is shorter. -/
theorem parentName_length_lt (isBelow : parentName name ≠ name) :
    (parentName name).length < name.length := by
  have start : (parentName name).toList <+: name.toList := by
    have whole : name.toList = ".".toList.intercalate ((components name).map String.toList) := by
      rw [← String.toList_intercalate, intercalate_components]
    rw [whole, parentName, String.toList_intercalate, List.map_dropLast]
    exact intercalate_dropLast_prefix _ _
  refine Nat.lt_of_le_of_ne start.length_le fun same => isBelow ?_
  exact String.toList_inj.1 (start.eq_of_length same)

end Text

namespace Codebase

/-! ## Lists -/

/-- A test that fewer pass, and one item less. -/
theorem countP_lt_countP {α : Type} {few many : α → Bool} {xs : List α} {a : α}
    (fewer : ∀ x, few x → many x) (member : a ∈ xs) (passes : many a) (fails : ¬ few a) :
    xs.countP few < xs.countP many := by
  induction xs with
  | nil => cases member
  | cons x xs ih =>
      have rest : xs.countP few ≤ xs.countP many := List.countP_mono_left fun x _ => fewer x
      rcases List.mem_cons.1 member with rfl | later
      · rw [List.countP_cons_of_pos passes, List.countP_cons_of_neg fails]
        exact Nat.lt_succ_of_le rest
      · have ih := ih later
        rw [List.countP_cons, List.countP_cons]
        by_cases holds : few x
        · rw [if_pos holds, if_pos (fewer x holds)]
          exact Nat.succ_lt_succ ih
        · rw [if_neg holds]
          split <;> omega

/-- Items that are kept unless one like them is kept are all different. -/
theorem pairwise_foldl_unless {α : Type} {like : α → α → Bool} {xs kept : List α}
    (different : kept.Pairwise fun a b => ¬ like a b) :
    (xs.foldl (fun kept x => if kept.any (like · x) then kept else kept ++ [x]) kept).Pairwise
      fun a b => ¬ like a b := by
  induction xs generalizing kept with
  | nil => exact different
  | cons x xs ih =>
      rw [List.foldl_cons]
      refine ih ?_
      split
      · exact different
      · next unlike =>
          refine List.pairwise_append.2 ⟨different, List.pairwise_singleton _ x, ?_⟩
          intro a isKept y isNew same
          rw [List.mem_singleton.1 isNew] at same
          exact unlike (List.any_eq_true.2 ⟨a, isKept, same⟩)

variable {x : String} {xs kept : List String}

/-- Names without repetitions. -/
theorem mem_foldl_once : (x ∈ xs.foldl
    (fun kept n => if kept.contains n then kept else kept ++ [n]) kept) ↔ x ∈ kept ∨ x ∈ xs := by
  induction xs generalizing kept with
  | nil => simp
  | cons n xs ih =>
      rw [List.foldl_cons, ih]
      split
      · next known =>
          have here : n ∈ kept := List.contains_iff_mem.1 known
          rw [List.mem_cons]
          exact ⟨fun h => h.imp_right .inr, fun h => h.elim .inl fun h => h.elim
            (fun same => .inl (same ▸ here)) .inr⟩
      · rw [List.mem_append, List.mem_singleton, List.mem_cons, or_assoc]

theorem nodup_foldl_once (distinct : kept.Nodup) : (xs.foldl
    (fun kept n => if kept.contains n then kept else kept ++ [n]) kept).Nodup := by
  simp only [List.contains_eq_any_beq]
  have apart : ∀ {ns : List String}, ns.Nodup ↔ ns.Pairwise fun a b => ¬ b == a := by
    simp only [beq_iff_eq]
    exact ⟨fun h => List.Pairwise.imp Ne.symm h, fun h => List.Pairwise.imp Ne.symm h⟩
  exact apart.2 (pairwise_foldl_unless (apart.1 distinct))

/-! ## The names of a codebase -/

variable {c : Codebase} {n name p : String} {m : ModuleSpec}

theorem mem_names : n ∈ c.names ↔ ∃ m ∈ c.modules, n ∈ ancestry m.name := by
  rw [names, mem_foldl_once, List.mem_flatMap]
  exact or_iff_right List.not_mem_nil

theorem names_nodup (c : Codebase) : c.names.Nodup := nodup_foldl_once List.nodup_nil

/-- A name is the last of the names above it. -/
theorem mem_ancestry (name : String) : name ∈ ancestry name := by
  have some : 0 < (Text.components name).length := by
    rw [Text.components, List.length_map]
    exact List.length_pos_iff.2 (Text.splitAt_ne_nil _ _)
  refine List.mem_map.2 ⟨(Text.components name).length - 1, List.mem_range.2 (by omega), ?_⟩
  rw [Nat.sub_add_cancel some, List.take_length, Text.intercalate_components]

/-- A definition is found by its own name. -/
theorem find?_name (found : c.find? n = some m) : m.name = n := by
  unfold find? at found
  split at found
  · next listed =>
      cases found
      have same := List.find?_some listed
      exact eq_of_beq same
  · split at found
    · cases found
      rfl
    · have same := List.find?_some found
      exact eq_of_beq same

theorem mem_known (found : c.find? n = some m) : n ∈ c.known := by
  have isNamed := find?_name found
  unfold find? at found
  rw [known, List.mem_append]
  split at found
  · next listed =>
      cases found
      have member := List.mem_reverse.1 (List.mem_of_find?_eq_some listed)
      exact .inl (mem_names.2 ⟨m, member, isNamed ▸ mem_ancestry m.name⟩)
  · split at found
    · next isListed => exact .inl (List.contains_iff_mem.1 isListed)
    · exact .inr (List.mem_map.2 ⟨m, List.mem_of_find?_eq_some found, isNamed⟩)

theorem mem_children : n ∈ c.children p ↔ n ∈ c.names ∧ Text.parentName n = p ∧ n ≠ p := by
  rw [children, List.mem_mergeSort, List.mem_filter]
  simp

theorem children_nodup (c : Codebase) (p : String) : (c.children p).Nodup :=
  ((List.mergeSort_perm _ _).nodup_iff).2 ((names_nodup c).filter _)

/-- The children are what is listed below the package, if that is in the order of the files. -/
theorem children_eq {below : List String}
    (listed : (c.names.filter fun n => Text.parentName n == p && n != p) = below)
    (rising : below.Pairwise fun a b => (!Text.textLt (c.fileName b) (c.fileName a)) = true) :
    c.children p = below := by
  rw [children, listed]
  exact List.mergeSort_of_pairwise rising

theorem length_lt_of_mem_children (below : n ∈ c.children p) : p.length < n.length := by
  obtain ⟨-, rfl, other⟩ := mem_children.1 below
  exact Text.parentName_length_lt other.symm

/-- How many names are longer than a name, which bounds how deep its packages nest. -/
def longer (c : Codebase) (name : String) : Nat :=
  c.names.countP fun n => name.length < n.length

theorem longer_le (c : Codebase) (name : String) : c.longer name ≤ c.names.length :=
  List.countP_le_length

/-- A child has fewer names that are longer. -/
theorem longer_lt_of_mem_children (below : n ∈ c.children p) : c.longer n < c.longer p := by
  have deeper := length_lt_of_mem_children below
  refine countP_lt_countP (a := n) (fun x longer => ?_) (mem_children.1 below).1
    (decide_eq_true deeper) fun longer => Nat.lt_irrefl _ (of_decide_eq_true longer)
  exact decide_eq_true (Nat.lt_trans deeper (of_decide_eq_true longer))

end Codebase

end Marking
