/-
# Marking.Proofs.Codebase.Signatures -- full names and kinds, and their order

The full name and the kind of a declaration say which one it is: among classes with different full
names, and members with different names without dots, no two declarations share them
(`ScannedClass.eq_of_signature_eq`).  They are totally ordered, so what was kept of a list is
strictly rising (`canonical_rising`), and is settled by what it holds (`eq_of_rising`).
-/
import Marking.Proofs.Codebase.Collecting
import Marking.Proofs.Codebase.Lineage
import Mathlib.Data.List.Sort
import Mathlib.Data.String.Basic

set_option autoImplicit false

namespace Marking

open ModuleScan

/-! ## The order of unit keys -/

namespace Text

theorem textLt_go_iff {as bs : List Char} : textLt.go as bs = true ↔ as < bs := by
  induction as generalizing bs with
  | nil => cases bs <;> simp [textLt.go]
  | cons a as ih =>
      cases bs with
      | nil => simp [textLt.go]
      | cons b bs =>
          rw [textLt.go, Bool.or_eq_true, Bool.and_eq_true, beq_iff_eq, decide_eq_true_iff, ih,
            List.cons_lt_cons_iff, Char.lt_def]
          exact or_congr Iff.rfl Iff.rfl

theorem textLt_iff {a b : String} : textLt a b = true ↔ a < b :=
  textLt_go_iff.trans String.lt_iff_toList_lt.symm

end Text

namespace ElementKind

theorem rank_injective : Function.Injective rank := by
  intro a b same
  cases a <;> cases b <;> first | rfl | cases same

end ElementKind

namespace UnitKey

variable {a b k : UnitKey}

theorem lt_iff : a.lt b = true ↔ a.name < b.name ∨ a.name = b.name ∧ a.kind.rank < b.kind.rank := by
  rw [lt, Bool.or_eq_true, Bool.and_eq_true, beq_iff_eq, decide_eq_true_iff, Text.textLt_iff]

theorem lt_irrefl (a : UnitKey) : ¬ a.lt a := by
  rw [lt_iff]
  rintro (less | ⟨-, less⟩)
  · exact String.lt_irrefl _ less
  · exact Nat.lt_irrefl _ less

theorem lt_trans (first : a.lt b) (second : b.lt k) : a.lt k := by
  rw [lt_iff] at *
  rcases first with first | ⟨same, first⟩
  · rcases second with second | ⟨same', -⟩
    · exact .inl (String.lt_trans first second)
    · exact .inl (same' ▸ first)
  · rcases second with second | ⟨same', second⟩
    · exact .inl (same ▸ second)
    · exact .inr ⟨same.trans same', Nat.lt_trans first second⟩

/-- Of two keys one comes before the other. -/
theorem lt_of_not_lt (differ : a ≠ b) (not : ¬ a.lt b) : b.lt a := by
  rw [lt_iff] at *
  obtain ⟨name, rank⟩ := not_or.1 not
  rcases lt_trichotomy a.name b.name with less | same | more
  · exact absurd less name
  · refine .inr ⟨same.symm, Nat.lt_of_le_of_ne (Nat.not_lt.1 fun less => rank ⟨same, less⟩) ?_⟩
    intro sameRank
    have sameKind := ElementKind.rank_injective sameRank
    cases a
    cases b
    exact differ (by simp_all)
  · exact .inl more

theorem le_iff : a.le b = true ↔ ¬ b.lt a := by
  rw [le, Bool.not_eq_true', Bool.eq_false_iff]

theorem le_trans (first : a.le b) (second : b.le k) : a.le k := by
  rw [le_iff] at *
  intro less
  by_cases same : a = b
  · exact second (same ▸ less)
  · exact second (lt_trans less (lt_of_not_lt (Ne.symm same) first))

theorem le_total (a b : UnitKey) : a.le b || b.le a := by
  rw [Bool.or_eq_true, le_iff, le_iff]
  by_contra both
  obtain ⟨first, second⟩ := not_or.1 both
  exact lt_irrefl a (lt_trans (not_not.1 second) (not_not.1 first))

end UnitKey

/-! ## Rising declarations -/

/-- The declarations are strictly rising in full name and kind. -/
def Rising (ds : List Declaration) : Prop :=
  ds.Pairwise fun a b => (signature a).lt (signature b)

section Rising

variable {as bs ds : List Declaration} {d e : Declaration}

/-- What was kept is strictly rising. -/
theorem canonical_rising (ds : List Declaration) : Rising (canonical ds) := by
  have trans : ∀ a b c : Declaration, (signature a).le (signature b) →
      (signature b).le (signature c) → (signature a).le (signature c) :=
    fun _ _ _ => UnitKey.le_trans
  have ordered : (canonical ds).Pairwise fun a b => (signature a).le (signature b) := by
    rw [canonical_eq]
    exact List.pairwise_mergeSort trans (fun _ _ => UnitKey.le_total _ _) _
  refine (ordered.and (canonical_once ds)).imp fun ⟨le, differ⟩ => ?_
  exact UnitKey.lt_of_not_lt (Ne.symm differ) (UnitKey.le_iff.1 le)

theorem Rising.filter (rising : Rising ds) (p : Declaration → Bool) : Rising (ds.filter p) :=
  List.Pairwise.filter p rising

/-- Strictly rising declarations are settled by which ones they are. -/
theorem eq_of_rising (risingA : Rising as) (risingB : Rising bs) (same : ∀ d, d ∈ as ↔ d ∈ bs) :
    as = bs := by
  let before (a b : Declaration) : Prop := (signature a).lt (signature b)
  have irrefl : Std.Irrefl before := ⟨fun a => UnitKey.lt_irrefl _⟩
  have antisymm : Std.Antisymm before :=
    ⟨fun a b less more => absurd (UnitKey.lt_trans less more) (UnitKey.lt_irrefl _)⟩
  exact List.Pairwise.eq_of_mem_iff risingA risingB same

end Rising

/-! ## What a class declares -/

namespace ScannedClass

variable {cls cls' : ScannedClass} {d e : Declaration}

def fullName (cls : ScannedClass) : String :=
  if cls.module = "builtins" then cls.qualname else cls.module ++ "." ++ cls.qualname

def kindOf (m : Member) : ElementKind := if m.name == "__init__" then .constructor else .method

/-- The members of the class and its fields have names without dots, no two the same. -/
structure PlainNames (cls : ScannedClass) : Prop where
  members : ∀ m ∈ cls.members, '.' ∉ m.name.toList
  membersOnce : (cls.members.map Member.name).Nodup
  fields : ∀ f ∈ cls.fields, '.' ∉ f.name.toList
  fieldsOnce : (cls.fields.map Field.name).Nodup

/-- A class declares itself, its members and its fields. -/
inductive Declares (cls : ScannedClass) : Declaration → Prop
  | type : Declares cls ⟨.type, cls.value, "", cls.markers⟩
  | member (m : Member) : m ∈ cls.members → Declares cls ⟨kindOf m, cls.value, m.name, m.markers⟩
  | field (f : Field) : f ∈ cls.fields → Declares cls ⟨.field, cls.value, f.name, f.markers⟩

theorem declares_of_mem (declares : d ∈ cls.declarations.1) : cls.Declares d := by
  rw [declarations, List.mem_append, List.mem_append] at declares
  rcases declares with (isType | isMember) | isField
  · rw [typeDeclarations] at isType
    split at isType
    · cases isType
    · rw [List.mem_singleton.1 isType]
      exact .type
  · obtain ⟨m, member, rfl⟩ := List.mem_map.1 isMember
    exact .member m (List.mem_of_mem_filter member)
  · unfold fieldDeclarations at isField
    split at isField
    · cases isField
    · split at isField
      · cases isField
      · obtain ⟨f, field, rfl⟩ := List.mem_map.1 isField
        exact .field f (List.mem_of_mem_filter field)

theorem ownerName_value {kind : ElementKind} {name : String} {markers : List Marker} :
    Declaration.ownerName ⟨kind, cls.value, name, markers⟩ = .ok cls.fullName := by
  show Value.qualifiedName (.classRef (some cls.module) cls.qualname cls.markers) = _
  by_cases builtin : cls.module = "builtins"
  · rw [fullName, if_pos builtin, builtin]
    rfl
  · rw [fullName, if_neg builtin, Value.qualifiedName]
    simp only [Value.ownName?, Value.module?]
    simp [Value.text, Except.map, Value.qualified]

/-- The signature of what belongs to a class. -/
theorem signature_type {markers : List Marker} :
    signature ⟨.type, cls.value, "", markers⟩ = ⟨cls.fullName, .type⟩ := by
  rw [signature, Declaration.qualifiedName, if_pos rfl, ownerName_value]

theorem signature_part {kind : ElementKind} {name : String} {markers : List Marker}
    (part : kind ≠ .type) : signature ⟨kind, cls.value, name, markers⟩ =
      ⟨cls.fullName ++ "." ++ name, kind⟩ := by
  rw [signature, Declaration.qualifiedName, if_neg part, ownerName_value]
  rfl

theorem kindOf_ne_type (m : Member) : kindOf m ≠ .type := by
  rw [kindOf]
  split <;> exact nofun

theorem kindOf_ne_field (m : Member) : kindOf m ≠ .field := by
  rw [kindOf]
  split <;> exact nofun

/-- **A declaration is known by its full name and kind**, when the classes are by their full names
and names of members have no dots. -/
theorem eq_of_signature_eq (plain : cls.PlainNames) (plain' : cls'.PlainNames)
    (distinct : cls.fullName = cls'.fullName → cls = cls') (declares : cls.Declares d)
    (declares' : cls'.Declares e) (same : signature d = signature e) : d = e := by
  cases declares with
  | type =>
      rw [signature_type] at same
      cases declares' with
      | type =>
          rw [signature_type] at same
          rw [distinct (UnitKey.mk.inj same).1]
      | member m =>
          rw [signature_part (kindOf_ne_type m)] at same
          exact absurd (UnitKey.mk.inj same).2.symm (kindOf_ne_type m)
      | field f =>
          rw [signature_part (by decide)] at same
          cases (UnitKey.mk.inj same).2
  | member m isMember =>
      rw [signature_part (kindOf_ne_type m)] at same
      cases declares' with
      | type =>
          rw [signature_type] at same
          exact absurd (UnitKey.mk.inj same).2 (kindOf_ne_type m)
      | member m' isMember' =>
          rw [signature_part (kindOf_ne_type m')] at same
          obtain ⟨class_, name⟩ := Text.eq_of_dot_eq (plain.members m isMember)
            (plain'.members m' isMember') (UnitKey.mk.inj same).1
          cases distinct class_
          rw [List.inj_on_of_nodup_map plain.membersOnce isMember isMember' name]
      | field f =>
          rw [signature_part (by decide)] at same
          exact absurd (UnitKey.mk.inj same).2 (kindOf_ne_field m)
  | field f isField =>
      rw [signature_part (by decide)] at same
      cases declares' with
      | type =>
          rw [signature_type] at same
          cases (UnitKey.mk.inj same).2
      | member m =>
          rw [signature_part (kindOf_ne_type m)] at same
          exact absurd (UnitKey.mk.inj same).2.symm (kindOf_ne_field m)
      | field f' isField' =>
          rw [signature_part (by decide)] at same
          obtain ⟨class_, name⟩ := Text.eq_of_dot_eq (plain.fields f isField)
            (plain'.fields f' isField') (UnitKey.mk.inj same).1
          cases distinct class_
          rw [List.inj_on_of_nodup_map plain.fieldsOnce isField isField' name]

end ScannedClass

end Marking
