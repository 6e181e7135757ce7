/-
# Marking.Proofs.Marker.Targets -- the kinds that declared targets come to

Declared targets may name a kind several times, as a kind, by its word, or in other spellings of
the word.  However they are written, every kind is listed once.

A value names a kind or it does not (`Names`), and declared targets list some values or nothing
at all (`Lists`).  What the targets come to follows from these two (`Resolved`): the named kinds in
the order in which they are first named if the targets list something and all of it names kinds,
and else every kind, with the expressions of whatever names none.  So no way of writing the targets
leaves a marker without kinds.

The expressions have to be written for that.  The targets come to something exactly when every part
that names no kind can be written, and otherwise asking for them fails with the fault of the first
part that cannot (`targets_resolved`).
-/
import Mathlib.Data.List.Forall2
import Mathlib.Data.List.Induction
import Mathlib.Data.List.Nodup
import Marking.Marker.Targets
import Marking.Proofs.Value.Writing

set_option autoImplicit false

namespace Marking

namespace Targets

theorem kindsAmong_snoc (vs : List Value) (v : Value) :
    kindsAmong (vs ++ [v]) =
      match ElementKind.ofValue v with
      | .ok k => if k ∈ kindsAmong vs then kindsAmong vs else kindsAmong vs ++ [k]
      | .error _ => kindsAmong vs := by
  rw [kindsAmong, List.foldl_append]
  rfl

theorem kindsAmong_nodup (vs : List Value) : (kindsAmong vs).Nodup := by
  induction vs using List.reverseRecOn with
  | nil => exact List.nodup_nil
  | append_singleton vs v ih =>
      rw [kindsAmong_snoc]
      cases ElementKind.ofValue v with
      | error f => exact ih
      | ok k =>
          by_cases known : k ∈ kindsAmong vs
          · simpa only [if_pos known] using ih
          · simp only [if_neg known]
            exact List.concat_eq_append ▸ ih.concat known

theorem settle_kinds_nodup (markerName : String) (vs : List Value) (unknown : List String) :
    (settle markerName (kindsAmong vs) unknown).1.kinds.Nodup := by
  unfold settle
  split
  · exact kindsAmong_nodup vs
  · exact ElementKind.all_nodup

/-! ## What a value names -/

/-- The value is the kind, or its word in any case, with or without blanks around it. -/
def Names (v : Value) (k : ElementKind) : Prop :=
  v = .kind k ∨ ∃ s, v = .str s ∧ Text.lower (Text.strip s) = k.word

def kindNamed? (v : Value) : Option ElementKind := (ElementKind.ofValue v).toOption

theorem ofText?_eq_some_iff {s : String} {k : ElementKind} :
    ElementKind.ofText? s = some k ↔ Text.lower (Text.strip s) = k.word := by
  have words (k : ElementKind) : ElementKind.all.find? (fun j => j.word == k.word) = some k := by
    cases k <;> decide
  rw [ElementKind.ofText?]
  constructor
  · intro found
    have same := List.find?_some found
    exact (eq_of_beq same).symm
  · intro same
    rw [same]
    exact words k

theorem kindNamed?_eq_some_iff {v : Value} {k : ElementKind} :
    kindNamed? v = some k ↔ Names v k := by
  unfold kindNamed? ElementKind.ofValue Names
  split
  · simp [Except.toOption]
  · next s =>
      have named : ElementKind.ofText? s = some k ↔ Text.lower (Text.strip s) = k.word :=
        ofText?_eq_some_iff
      cases found : ElementKind.ofText? s with
      | some j => simpa [Except.toOption, found] using named
      | none => simpa [Except.toOption, found] using named
  · next notKind notText =>
      refine ⟨nofun, ?_⟩
      rintro (same | ⟨s, same, -⟩)
      · exact absurd same (notKind k)
      · exact absurd same (notText s)

instance (v : Value) : Decidable (∃ k, Names v k) :=
  decidable_of_iff ((kindNamed? v).isSome) <| by
    rw [Option.isSome_iff_exists]
    exact exists_congr fun _ => kindNamed?_eq_some_iff

/-- The kinds are listed at the places where they are first named. -/
theorem kindsAmong_eq (vs : List Value) : kindsAmong vs = (vs.filterMap kindNamed?).eraseDups := by
  induction vs using List.reverseRecOn with
  | nil => rfl
  | append_singleton vs v ih =>
      rw [kindsAmong_snoc, List.filterMap_append, List.eraseDups_append, ← ih]
      cases read : ElementKind.ofValue v with
      | error f =>
          have unnamed : [v].filterMap kindNamed? = [] := by simp [kindNamed?, read, Except.toOption]
          rw [unnamed]
          exact (List.append_nil _).symm
      | ok k =>
          have named : [v].filterMap kindNamed? = [k] := by simp [kindNamed?, read, Except.toOption]
          have member : k ∈ vs.filterMap kindNamed? ↔ k ∈ kindsAmong vs := by
            rw [ih, List.mem_eraseDups]
          rw [named, List.removeAll, List.filter_singleton]
          by_cases known : k ∈ kindsAmong vs
          · simp [known, member.2 known]
          · simp [known, mt member.1 known, List.eraseDups_cons]

theorem isUnknown_eq (v : Value) : isUnknown v = decide (¬ ∃ k, Names v k) := by
  have named : (∃ k, Names v k) ↔ ∃ k, ElementKind.ofValue v = .ok k := by
    refine exists_congr fun k => kindNamed?_eq_some_iff.symm.trans ?_
    unfold kindNamed?
    cases ElementKind.ofValue v <;> simp [Except.toOption]
  rw [Bool.eq_iff_iff, decide_eq_true_iff, named, isUnknown]
  cases ElementKind.ofValue v <;> simp

/-- The listed values that name no kind. -/
def unnamed (vs : List Value) : List Value := vs.filter fun v => ¬ ∃ k, Names v k

theorem unknownAmong_eq (vs : List Value) : unknownAmong vs = (unnamed vs).mapM Value.expression := by
  rw [unknownAmong, unnamed, funext isUnknown_eq]

theorem unnamed_eq_nil_iff {vs : List Value} : unnamed vs = [] ↔ ∀ v ∈ vs, ∃ k, Names v k := by
  rw [unnamed, List.filter_eq_nil_iff]
  simp only [decide_eq_true_eq, not_not]

/-! ## What declared targets list -/

/-- What declared targets list: a kind and a text list themselves, a collection its items. -/
inductive Lists : Value → List Value → Prop
  | text (s : String) : Lists (.str s) [.str s]
  | kind (k : ElementKind) : Lists (.kind k) [.kind k]
  | items {v : Value} {vs : List Value} : (∀ s, v ≠ .str s) → v.items? = some vs → Lists v vs

theorem listed_eq_some_iff {v : Value} {vs : List Value} : listed v = some vs ↔ Lists v vs := by
  unfold listed
  split
  · next s =>
      refine ⟨fun same => Option.some.inj same ▸ .text s, ?_⟩
      rintro (_ | _ | ⟨notText, -⟩)
      · rfl
      · exact absurd rfl (notText s)
  · next k =>
      refine ⟨fun same => Option.some.inj same ▸ .kind k, ?_⟩
      rintro (_ | _ | ⟨-, noItems⟩)
      · rfl
      · cases noItems
  · next notText notKind =>
      refine ⟨.items notText, ?_⟩
      rintro (s | k | ⟨-, found⟩)
      · exact absurd rfl (notText s)
      · exact absurd rfl (notKind k)
      · exact found

/-- The parts of declared targets that name no kind. -/
inductive Unnamed : Value → List Value → Prop
  | listed {declared : Value} {vs : List Value} : Lists declared vs → Unnamed declared (unnamed vs)
  /-- Targets that list nothing are such a part as a whole, unless they are left out. -/
  | whole {declared : Value} : declared ≠ .null → (∀ vs, ¬ Lists declared vs) →
      Unnamed declared [declared]
  | leftOut : Unnamed .null []

/-! ## What declared targets come to -/

/-- What declared targets come to. -/
structure Resolved (declared : Value) (r : Targets) : Prop where
  /-- There is always a kind. -/
  kinds_ne_nil : r.kinds ≠ []
  once : r.kinds.Nodup
  unknown_eq_nil_iff : r.unknown = [] ↔
    declared = .null ∨ ∃ vs, Lists declared vs ∧ vs ≠ [] ∧ ∀ v ∈ vs, ∃ k, Names v k
  unrestricted : declared = .null → r = ⟨ElementKind.all, []⟩
  /-- Values that name kinds, one each, restrict the marker to these, at their first places. -/
  restricted : ∀ vs ks, Lists declared vs → List.Forall₂ Names vs ks → ks ≠ [] →
    r = ⟨ks.eraseDups, []⟩
  /-- A mistake never hides a marker. -/
  kinds_of_unknown : r.unknown ≠ [] → r.kinds = ElementKind.all
  /-- Of listed values, those that name no kind are unknown. -/
  unknown_of_lists : ∀ vs, Lists declared vs → vs ≠ [] →
    List.Forall₂ (fun v text => v.expression = .ok text) (unnamed vs) r.unknown
  unknown_of_empty : Lists declared [] → r.unknown = ["(empty)"]
  /-- What lists nothing is unknown as a whole. -/
  unknown_of_unlisted : declared ≠ .null → (∀ vs, ¬ Lists declared vs) →
    ∃ text, declared.expression = .ok text ∧ r.unknown = [text]

theorem kinds_of_forall₂ {vs : List Value} {ks : List ElementKind}
    (named : List.Forall₂ Names vs ks) :
    vs.filterMap kindNamed? = ks ∧ ∀ v ∈ vs, ∃ k, Names v k := by
  induction named with
  | nil => exact ⟨rfl, nofun⟩
  | cons first _ ih =>
      rw [List.filterMap_cons, kindNamed?_eq_some_iff.2 first]
      exact ⟨congrArg _ ih.1, List.forall_mem_cons.2 ⟨⟨_, first⟩, ih.2⟩⟩

theorem eraseDups_eq_nil_iff {ks : List ElementKind} : ks.eraseDups = [] ↔ ks = [] := by
  simp only [List.eq_nil_iff_forall_not_mem, List.mem_eraseDups]

variable {vs : List Value} {unknown : List String}

/-- Nothing is unknown when every listed value names a kind. -/
theorem eq_nil_iff_of_unknownAmong (written : unknownAmong vs = .ok unknown) :
    unknown = [] ↔ ∀ v ∈ vs, ∃ k, Names v k := by
  rw [unknownAmong_eq, mapM_eq_ok_iff] at written
  rw [← unnamed_eq_nil_iff, ← List.length_eq_zero_iff, ← written.length_eq,
    List.length_eq_zero_iff]

/-- Values that all name kinds name one, unless there are none. -/
theorem kindsNamed_ne_nil (some : vs ≠ []) (named : ∀ v ∈ vs, ∃ k, Names v k) :
    (vs.filterMap kindNamed?).eraseDups ≠ [] := by
  obtain ⟨v, member⟩ := List.exists_mem_of_ne_nil vs some
  obtain ⟨k, isNamed⟩ := named v member
  refine mt eraseDups_eq_nil_iff.1 (List.ne_nil_of_mem (a := k) ?_)
  exact List.mem_filterMap.2 ⟨v, member, kindNamed?_eq_some_iff.2 isNamed⟩

/-- What the targets come to when the listed values are known. -/
theorem settle_kindsAmong (written : unknownAmong vs = .ok unknown) (markerName : String) :
    (settle markerName (kindsAmong vs) unknown).1 =
      if vs = [] then ⟨ElementKind.all, ["(empty)"]⟩
      else if ∀ v ∈ vs, ∃ k, Names v k then ⟨(vs.filterMap kindNamed?).eraseDups, []⟩
      else ⟨ElementKind.all, unknown⟩ := by
  have none := eq_nil_iff_of_unknownAmong written
  rw [← kindsAmong_eq]
  cases vs with
  | nil =>
      obtain rfl := none.2 nofun
      rfl
  | cons v vs =>
      rw [if_neg (List.cons_ne_nil v vs), settle]
      by_cases named : ∀ w ∈ v :: vs, ∃ k, Names w k
      · have some : kindsAmong (v :: vs) ≠ [] := by
          rw [kindsAmong_eq]
          exact kindsNamed_ne_nil (List.cons_ne_nil v vs) named
        rw [if_pos named, none.2 named, if_pos]
        simpa using some
      · have unknown : unknown ≠ [] := mt none.1 named
        rw [if_neg named, if_neg, if_neg]
        · simpa using unknown
        · simp [unknown]

theorem all_ne_nil : ElementKind.all ≠ [] := by decide

theorem not_lists_null (vs : List Value) : ¬ Lists .null vs := by
  rintro (_ | _ | ⟨-, none⟩)
  cases none

theorem resolved_null : Resolved .null ⟨ElementKind.all, []⟩ where
  kinds_ne_nil := all_ne_nil
  once := ElementKind.all_nodup
  unknown_eq_nil_iff := iff_of_true rfl (.inl rfl)
  unrestricted _ := rfl
  restricted vs _ lists := absurd lists (not_lists_null vs)
  kinds_of_unknown unknown := absurd rfl unknown
  unknown_of_lists vs lists := absurd lists (not_lists_null vs)
  unknown_of_empty lists := absurd lists (not_lists_null [])
  unknown_of_unlisted notNull := absurd rfl notNull

variable {declared : Value}

theorem resolved_of_unlisted (notNull : declared ≠ .null) (unlisted : ∀ vs, ¬ Lists declared vs)
    {text : String} (written : declared.expression = .ok text) :
    Resolved declared ⟨ElementKind.all, [text]⟩ where
  kinds_ne_nil := all_ne_nil
  once := ElementKind.all_nodup
  unknown_eq_nil_iff := by
    refine iff_of_false (List.cons_ne_nil _ _) ?_
    rintro (isNull | ⟨vs, lists, -⟩)
    · exact notNull isNull
    · exact unlisted vs lists
  unrestricted isNull := absurd isNull notNull
  restricted vs _ lists := absurd lists (unlisted vs)
  kinds_of_unknown _ := rfl
  unknown_of_lists vs lists := absurd lists (unlisted vs)
  unknown_of_empty lists := absurd lists (unlisted [])
  unknown_of_unlisted _ _ := ⟨text, written, rfl⟩

theorem resolved_of_lists (lists : Lists declared vs) (written : unknownAmong vs = .ok unknown)
    (markerName : String) :
    Resolved declared (settle markerName (kindsAmong vs) unknown).1 := by
  have none := eq_nil_iff_of_unknownAmong written
  have single {ws : List Value} (lists' : Lists declared ws) : ws = vs :=
    Option.some.inj ((listed_eq_some_iff.2 lists').symm.trans (listed_eq_some_iff.2 lists))
  have notNull : declared ≠ .null := by
    rintro rfl
    exact not_lists_null vs lists
  have sound_iff : (declared = .null ∨ ∃ ws, Lists declared ws ∧ ws ≠ [] ∧
      ∀ v ∈ ws, ∃ k, Names v k) ↔ vs ≠ [] ∧ ∀ v ∈ vs, ∃ k, Names v k := by
    rw [or_iff_right notNull]
    exact ⟨fun ⟨ws, lists', named⟩ => single lists' ▸ named, fun named => ⟨vs, lists, named⟩⟩
  have once := settle_kinds_nodup markerName vs unknown
  rw [settle_kindsAmong written] at once ⊢
  constructor
  case once => exact once
  case unrestricted => exact fun isNull => absurd isNull notNull
  case unknown_of_unlisted => exact fun _ unlisted => absurd lists (unlisted vs)
  case unknown_of_empty =>
    intro lists'
    rw [if_pos (single lists').symm]
  case restricted =>
    intro ws ks lists' named some
    obtain rfl := single lists'
    obtain ⟨kinds, all⟩ := kinds_of_forall₂ named
    rw [if_neg, if_pos all, kinds]
    rintro rfl
    exact some kinds.symm
  case unknown_of_lists =>
    intro ws lists' some
    obtain rfl := single lists'
    rw [if_neg some]
    split
    · next named =>
        rw [unnamed_eq_nil_iff.2 named]
        exact .nil
    · exact mapM_eq_ok_iff.1 (unknownAmong_eq ws ▸ written)
  case unknown_eq_nil_iff =>
    rw [sound_iff]
    split
    · next empty => simp [empty]
    · next some =>
        split
        · next named => exact iff_of_true rfl ⟨some, named⟩
        · next unnamed => exact iff_of_false (mt none.1 unnamed) fun h => unnamed h.2
  case kinds_of_unknown =>
    split
    · exact fun _ => rfl
    · split
      · exact fun unknown => absurd rfl unknown
      · exact fun _ => rfl
  case kinds_ne_nil =>
    split
    · exact all_ne_nil
    · next some =>
        split
        · next named => exact kindsNamed_ne_nil some named
        · exact all_ne_nil

/-! ## Whether the targets can be asked for -/

/-- The writing of the parts fails with the fault, at the first part that cannot be written. -/
def FailsAt (parts : List Value) (f : Fault) : Prop :=
  ∃ before v after, parts = before ++ v :: after ∧
    (∀ u ∈ before, ∃ text, u.expression = .ok text) ∧ v.expression = .error f

theorem exists_unnamed (declared : Value) : ∃ parts, Unnamed declared parts := by
  by_cases lists : ∃ vs, Lists declared vs
  · exact lists.elim fun vs listed => ⟨_, .listed listed⟩
  · by_cases isNull : declared = .null
    · exact ⟨[], isNull ▸ .leftOut⟩
    · exact ⟨_, .whole isNull fun vs listed => lists ⟨vs, listed⟩⟩

theorem unknownIn_eq (lists : Lists declared vs) : unknownIn declared = unknownAmong vs := by
  rw [unknownIn, listed_eq_some_iff.2 lists]

theorem listed_eq_none (unlisted : ∀ vs, ¬ Lists declared vs) : listed declared = none :=
  Option.eq_none_iff_forall_ne_some.2 fun vs found => unlisted vs (listed_eq_some_iff.1 found)

theorem unknownIn_eq_of_unlisted (unlisted : ∀ vs, ¬ Lists declared vs) :
    unknownIn declared = [declared].mapM Value.expression := by
  rw [unknownIn, listed_eq_none unlisted]
  cases written : declared.expression <;> simp [written, Except.map, pure, Except.pure, bind,
    Except.bind]

/-- The unknown parts are the expressions of the parts that name no kind. -/
theorem unknownIn_of_unnamed {parts : List Value} (parted : Unnamed declared parts)
    (notNull : declared ≠ .null) : unknownIn declared = parts.mapM Value.expression := by
  cases parted with
  | listed lists => rw [unknownIn_eq lists, unknownAmong_eq]
  | whole _ unlisted => exact unknownIn_eq_of_unlisted unlisted
  | leftOut => exact absurd rfl notNull

theorem ofType_eq {t : MarkerType} (notNull : t.targets ≠ .null) :
    (ofType t).1 = (unknownIn t.targets).map fun unknown =>
      (settle t.name (kindsAmong ((listed t.targets).getD [])) unknown).1 := by
  unfold ofType
  split
  · next isNull => exact absurd isNull notNull
  · cases unknownIn t.targets <;> rfl

/-- Targets that can be asked for come to what they list. -/
theorem resolved_of_ofType {t : MarkerType} {r : Targets} (asked : (ofType t).1 = .ok r) :
    Resolved t.targets r := by
  by_cases isNull : t.targets = .null
  · rw [ofType, isNull] at asked
    cases asked
    exact isNull ▸ resolved_null
  · rw [ofType_eq isNull] at asked
    cases lists : listed t.targets with
    | some vs =>
        rw [unknownIn_eq (listed_eq_some_iff.1 lists), lists] at asked
        cases written : unknownAmong vs with
        | error f => rw [written] at asked; cases asked
        | ok unknown =>
            rw [written] at asked
            cases asked
            exact resolved_of_lists (listed_eq_some_iff.1 lists) written t.name
    | none =>
        have unlisted (vs : List Value) : ¬ Lists t.targets vs := by
          intro listed
          cases lists.symm.trans (listed_eq_some_iff.2 listed)
        rw [unknownIn, lists] at asked
        cases written : t.targets.expression with
        | error f => rw [written] at asked; cases asked
        | ok text =>
            rw [written] at asked
            cases asked
            exact resolved_of_unlisted isNull unlisted written

section Parts

variable {t : MarkerType} {parts : List Value}

theorem ofType_of_leftOut (isNull : t.targets = .null) :
    (ofType t).1 = .ok ⟨ElementKind.all, []⟩ := by
  rw [ofType, isNull]

theorem Unnamed.eq_nil (parted : Unnamed .null parts) : parts = [] := by
  cases parted with
  | listed lists => exact absurd lists (not_lists_null _)
  | whole notNull _ => exact absurd rfl notNull
  | leftOut => rfl

/-- Asking for the targets fails as the writing of the parts does. -/
theorem ofType_eq_error_iff (parted : Unnamed t.targets parts) {f : Fault} :
    (ofType t).1 = .error f ↔ FailsAt parts f := by
  by_cases isNull : t.targets = .null
  · rw [isNull] at parted
    rw [ofType_of_leftOut isNull, parted.eq_nil]
    refine iff_of_false nofun ?_
    rintro ⟨before, v, after, whole, -⟩
    exact List.append_ne_nil_of_right_ne_nil _ (List.cons_ne_nil v after) whole.symm
  · refine Iff.trans (b := parts.mapM Value.expression = .error f) ?_ mapM_eq_error_iff
    rw [ofType_eq isNull, unknownIn_of_unnamed parted isNull]
    cases parts.mapM Value.expression with
    | ok texts => exact iff_of_false nofun nofun
    | error g =>
        exact ⟨fun same => congrArg Except.error (Except.error.inj same),
          fun same => congrArg Except.error (Except.error.inj same)⟩

theorem ofType_returns_iff (parted : Unnamed t.targets parts) :
    (∃ r, (ofType t).1 = .ok r) ↔ ∀ v ∈ parts, ∃ text, v.expression = .ok text := by
  by_cases isNull : t.targets = .null
  · rw [isNull] at parted
    rw [ofType_of_leftOut isNull, parted.eq_nil]
    exact iff_of_true ⟨_, rfl⟩ nofun
  · rw [ofType_eq isNull, unknownIn_of_unnamed parted isNull, ← mapM_returns_iff]
    cases parts.mapM Value.expression with
    | ok texts => exact iff_of_true ⟨_, rfl⟩ ⟨_, rfl⟩
    | error g => exact iff_of_false nofun nofun

end Parts

end Targets

def MarkerType.kinds (t : MarkerType) : List ElementKind :=
  match (Targets.ofType t).1 with
  | .ok targets => targets.kinds
  | .error _ => []

theorem MarkerType.kinds_eq {t : MarkerType} {r : Targets} (asked : (Targets.ofType t).1 = .ok r) :
    t.kinds = r.kinds := by
  rw [kinds, asked]

/-- However the targets are written, every kind is listed once. -/
theorem MarkerType.kinds_nodup (t : MarkerType) : t.kinds.Nodup := by
  unfold kinds
  split
  · next r asked => exact (Targets.resolved_of_ofType asked).once
  · exact List.nodup_nil

end Marking
