/-
# Marking.Proofs.Codebase.Lineage -- dotted names and the modules below a module

A dotted name is the list of its components, and the names above it are those with fewer of
the first ones (`mem_ancestry_iff`).  The names of a codebase are closed under going up, so what
a walk finds below a module is all that lies within it (`under_iff_isWithin`).
-/
import Marking.Proofs.Codebase.Walking

set_option autoImplicit false

namespace Marking

namespace Text

variable {sep : Char} {cs as bs : List Char} {name a b : String}

theorem not_mem_of_mem_splitAt {part : List Char} (member : part ∈ splitAt sep cs) :
    sep ∉ part := by
  induction cs generalizing part with
  | nil =>
      rw [splitAt, List.mem_singleton] at member
      rw [member]
      exact List.not_mem_nil
  | cons c cs ih =>
      rw [splitAt] at member
      split at member
      · rcases List.mem_cons.1 member with rfl | later
        · exact List.not_mem_nil
        · exact ih later
      · next other =>
          split at member
          · next none => exact absurd none (splitAt_ne_nil sep cs)
          · next first rest parts =>
              rcases List.mem_cons.1 member with rfl | later
              · have plain := ih (parts ▸ List.mem_cons_self)
                exact List.not_mem_cons_of_ne_of_not_mem (Ne.symm other) plain
              · exact ih (parts ▸ List.mem_cons_of_mem first later)

/-- Two lists with a separator between them have the parts of both. -/
theorem splitAt_append (sep : Char) (as bs : List Char) :
    splitAt sep (as ++ sep :: bs) = splitAt sep as ++ splitAt sep bs := by
  induction as with
  | nil => simp [splitAt]
  | cons c as ih =>
      rw [List.cons_append, splitAt, splitAt, ih]
      by_cases isSep : c = sep
      · rw [if_pos isSep, if_pos isSep, List.cons_append]
      · rw [if_neg isSep, if_neg isSep]
        cases parts : splitAt sep as with
        | nil => exact absurd parts (splitAt_ne_nil sep as)
        | cons part rest => rfl

theorem splitAt_of_not_mem (plain : sep ∉ cs) : splitAt sep cs = [cs] := by
  induction cs with
  | nil => rfl
  | cons c cs ih =>
      obtain ⟨other, rest⟩ := not_or.1 (plain ∘ List.mem_cons.2)
      rw [splitAt, if_neg (Ne.symm other), ih rest]

theorem components_ne_nil (name : String) : components name ≠ [] := by
  rw [components, ne_eq, List.map_eq_nil_iff]
  exact splitAt_ne_nil '.' name.toList

theorem components_injective : Function.Injective components := by
  intro a b same
  rw [← intercalate_components a, same, intercalate_components]

/-- A component has no dot. -/
theorem plain_of_mem_components {part : String} (member : part ∈ components name) :
    '.' ∉ part.toList := by
  obtain ⟨cs, isPart, rfl⟩ := List.mem_map.1 member
  rw [String.toList_ofList]
  exact not_mem_of_mem_splitAt isPart

theorem components_dot (a b : String) : components (a ++ "." ++ b) = components a ++ components b := by
  have chars : (a ++ "." ++ b).toList = a.toList ++ '.' :: b.toList := by simp
  rw [components, chars, splitAt_append, List.map_append, ← components, ← components]

theorem components_of_plain (plain : '.' ∉ name.toList) : components name = [name] := by
  rw [components, splitAt_of_not_mem plain, List.map_singleton, String.ofList_toList]

/-- Names that differ in front of the last dot or behind it differ. -/
theorem eq_of_dot_eq {x y : String} (plainX : '.' ∉ x.toList) (plainY : '.' ∉ y.toList)
    (same : a ++ "." ++ x = b ++ "." ++ y) : a = b ∧ x = y := by
  have parts := congrArg components same
  rw [components_dot, components_dot, components_of_plain plainX, components_of_plain plainY] at parts
  obtain ⟨front, last⟩ := List.append_inj' parts rfl
  exact ⟨components_injective front, List.head_eq_of_cons_eq last⟩

/-- Components without dots, put together, are the components. -/
theorem components_intercalate {parts : List String} (some : parts ≠ [])
    (plain : ∀ part ∈ parts, '.' ∉ part.toList) : components (".".intercalate parts) = parts := by
  induction parts with
  | nil => exact absurd rfl some
  | cons part rest ih =>
      obtain ⟨first, plain⟩ := List.forall_mem_cons.1 plain
      cases rest with
      | nil => simpa using components_of_plain first
      | cons next rest =>
          have joined : ".".intercalate (part :: next :: rest) =
              part ++ "." ++ ".".intercalate (next :: rest) := by
            rw [← String.toList_inj]
            simp [String.toList_intercalate]
          rw [joined, components_dot, components_of_plain first, ih (List.cons_ne_nil _ _) plain]
          rfl

/-- The name above a name has one component less. -/
theorem components_parentName (several : (components name).length ≠ 1) :
    components (parentName name) = (components name).dropLast := by
  refine components_intercalate ?_ fun part member =>
    plain_of_mem_components (List.dropLast_subset _ member)
  intro none
  have length := congrArg List.length none
  have some := List.length_pos_iff.2 (components_ne_nil name)
  rw [List.length_dropLast, List.length_nil] at length
  omega

end Text

open Text

/-- A module lies within another one when it has all of its components first. -/
theorem isWithin_iff {n p : String} : isWithin n p = true ↔ components p <+: components n := by
  rw [isWithin, Bool.or_eq_true, beq_iff_eq, startsWith, List.isPrefixOf_iff_prefix]
  constructor
  · rintro (rfl | ⟨rest, whole⟩)
    · exact List.prefix_rfl
    · have name : n = p ++ "." ++ String.ofList rest := by
        rw [← String.toList_inj, ← whole]
        simp
      rw [name, components_dot]
      exact List.prefix_append _ _
  · rintro ⟨rest, whole⟩
    cases rest with
    | nil =>
        rw [List.append_nil] at whole
        exact .inl (components_injective whole.symm)
    | cons part rest =>
        right
        have plain : ∀ x ∈ part :: rest, '.' ∉ x.toList := fun x member =>
          plain_of_mem_components (whole ▸ List.mem_append_right _ member)
        have name : n = p ++ "." ++ ".".intercalate (part :: rest) := by
          apply components_injective
          rw [components_dot, components_intercalate (List.cons_ne_nil _ _) plain, whole]
        exact ⟨(".".intercalate (part :: rest)).toList, by simp [name]⟩

theorem isWithin_trans {n p q : String} (low : isWithin n p) (high : isWithin p q) :
    isWithin n q :=
  isWithin_iff.2 ((isWithin_iff.1 high).trans (isWithin_iff.1 low))

namespace Codebase

variable {c : Codebase} {n a b p : String} {pre post : List String}

/-! ## The names above a name -/

theorem ancestry_eq (name : String) : ancestry name =
    (List.range (components name).length).map fun i => ".".intercalate ((components name).take (i + 1)) :=
  rfl

theorem components_above {i : Nat} :
    components (".".intercalate ((components n).take (i + 1))) = (components n).take (i + 1) := by
  refine components_intercalate ?_ fun part member =>
    plain_of_mem_components (List.mem_of_mem_take member)
  rw [ne_eq, List.take_eq_nil_iff, not_or]
  exact ⟨Nat.succ_ne_zero i, components_ne_nil n⟩

/-- The names above a name, itself included, have its first components. -/
theorem mem_ancestry_iff : a ∈ ancestry n ↔ components a <+: components n := by
  rw [ancestry_eq, List.mem_map]
  constructor
  · rintro ⟨i, -, rfl⟩
    rw [components_above]
    exact List.take_prefix _ _
  · intro isPrefix
    have some := List.length_pos_iff.2 (components_ne_nil a)
    have short := isPrefix.length_le
    refine ⟨(components a).length - 1, List.mem_range.2 (by omega), ?_⟩
    apply components_injective
    rw [components_above, Nat.sub_add_cancel some]
    exact (List.prefix_iff_eq_take.1 isPrefix).symm

theorem ancestry_trans (high : a ∈ ancestry b) (low : b ∈ ancestry n) : a ∈ ancestry n :=
  mem_ancestry_iff.2 ((mem_ancestry_iff.1 high).trans (mem_ancestry_iff.1 low))

/-- What lies above a name comes before it. -/
theorem ancestry_ordered (split : ancestry n = pre ++ a :: post) (high : b ∈ ancestry a) :
    b = a ∨ b ∈ pre := by
  have numbered : ∀ i, ∀ name, (ancestry n)[i]? = some name →
      components name = (components n).take (i + 1) := by
    intro i name found
    rw [ancestry_eq, List.getElem?_map, Option.map_eq_some_iff] at found
    obtain ⟨j, isNumber, rfl⟩ := found
    obtain ⟨-, rfl⟩ := List.getElem?_eq_some_iff.1 isNumber
    rw [List.getElem_range]
    exact components_above
  have isA := numbered pre.length a (by rw [split]; simp)
  have member : b ∈ ancestry n := by
    refine ancestry_trans high ?_
    rw [split]
    exact List.mem_append_right _ List.mem_cons_self
  obtain ⟨i, found⟩ := List.getElem?_of_mem member
  have isB := numbered i b found
  rcases Nat.lt_trichotomy i pre.length with less | same | more
  · rw [split, List.getElem?_append_left less] at found
    exact .inr (List.mem_of_getElem? found)
  · exact .inl (components_injective (by rw [isB, isA, same]))
  · left
    apply components_injective
    refine ((mem_ancestry_iff.1 high).eq_of_length_le ?_)
    rw [isA, isB, List.length_take, List.length_take]
    omega

/-- What lies above a name of the codebase is one. -/
theorem names_closed (known : n ∈ c.names) (high : a ∈ ancestry n) : a ∈ c.names := by
  obtain ⟨m, member, low⟩ := mem_names.1 known
  exact mem_names.2 ⟨m, member, ancestry_trans high low⟩

/-! ## The names below a name -/

theorem isWithin_of_mem_children (some : p ≠ "") (child : n ∈ c.children p) : isWithin n p := by
  obtain ⟨-, rfl, -⟩ := mem_children.1 child
  rw [isWithin_iff, components_parentName]
  · exact List.dropLast_prefix _
  · intro single
    obtain ⟨part, isSingle⟩ := List.length_eq_one_iff.1 single
    refine some ?_
    rw [parentName, isSingle]
    rfl

/-- A module with a module below it is a package. -/
theorem isPackage_of_mem_children (some : p ≠ "") (child : n ∈ c.children p) : c.isPackage p := by
  obtain ⟨known, -, other⟩ := mem_children.1 child
  rw [isPackage, Bool.or_eq_true, List.any_eq_true]
  refine .inr ⟨n, known, ?_⟩
  rw [Bool.and_eq_true, bne_iff_ne]
  exact ⟨other, isWithin_of_mem_children some child⟩

theorem ne_empty_of_mem_children (child : n ∈ c.children p) : n ≠ "" := by
  intro none
  obtain ⟨-, above, other⟩ := mem_children.1 child
  rw [none] at above other
  exact other above

end Codebase

open Codebase

section Under

variable {c : Codebase} {n p : String}

theorem Under.isWithin (some : p ≠ "") (under : Under c p n) : isWithin n p ∧ n ≠ "" := by
  induction under with
  | refl => exact ⟨isWithin_iff.2 List.prefix_rfl, some⟩
  | tail _ child ih =>
      exact ⟨isWithin_trans (isWithin_of_mem_children ih.2 child) ih.1, ne_empty_of_mem_children child⟩

theorem Under.known (known : p ∈ c.names) (under : Under c p n) : n ∈ c.names := by
  cases under with
  | refl => exact known
  | tail _ child => exact (mem_children.1 child).1

/-- A walk comes to every module of the codebase within the one it starts from. -/
theorem under_of_isWithin (known : n ∈ c.names) (within : isWithin n p) : Under c p n := by
  -- By the number of components, from the name up to the one that it lies within.
  generalize size : (components n).length = count
  induction count generalizing n with
  | zero => exact absurd (List.length_eq_zero_iff.1 size) (components_ne_nil n)
  | succ count ih =>
      have isPrefix := isWithin_iff.1 within
      by_cases whole : components p = components n
      · rw [components_injective whole]
        exact .refl
      · have shorter : (components p).length < (components n).length :=
          Nat.lt_of_le_of_ne isPrefix.length_le fun same => whole (isPrefix.eq_of_length same)
        have some := List.length_pos_iff.2 (components_ne_nil p)
        have above : components (parentName n) = (components n).dropLast :=
          components_parentName (by omega)
        have length : (components (parentName n)).length = count := by
          rw [above, List.length_dropLast, size, Nat.add_sub_cancel]
        have isParent : parentName n ∈ ancestry n := by
          rw [mem_ancestry_iff, above]
          exact List.dropLast_prefix _
        have other : n ≠ parentName n := by
          intro same
          rw [← same] at length
          omega
        have inParent : isWithin (parentName n) p := by
          rw [isWithin_iff, above, List.prefix_iff_eq_take, List.dropLast_eq_take, List.take_take]
          rw [List.prefix_iff_eq_take] at isPrefix
          rw [Nat.min_eq_left (by omega)]
          exact isPrefix
        exact (ih (names_closed known isParent) inParent length).tail
          (mem_children.2 ⟨known, rfl, other⟩)

theorem under_iff_isWithin (some : p ≠ "") (known : p ∈ c.names) :
    Under c p n ↔ n ∈ c.names ∧ isWithin n p :=
  ⟨fun under => ⟨under.known known, (under.isWithin some).1⟩,
    fun ⟨isKnown, within⟩ => under_of_isWithin isKnown within⟩

end Under

end Marking
