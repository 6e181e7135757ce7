/-
# Marking.Proofs.Value.Writing -- values that can be written, and values that cannot

The writing of a value fails for one of three reasons: its parts lie too deep in one another, a whole
number in it has too many digits, or a thing in it refuses to show itself (`Fault.IsOfWriting`).
Several values are written one after the other, up to the first that cannot be (`mapM_eq_ok_iff`,
`mapM_eq_error_iff`).  A fault that shows a text is that fault, or the one that the text met
(`Fault.showing_cases`).  So a value without a name or a key is refused, or it cannot be written
(`UnitKey.ofValue_fault`).
-/
import Mathlib.Data.List.Forall2
import Marking.Value.Attribute

set_option autoImplicit false

namespace Marking

/-! ## Several values -/

section Several

variable {α β : Type} {act : α → Except Fault β} {xs : List α} {f : Fault}

theorem mapM_eq_ok_iff {ys : List β} :
    xs.mapM act = .ok ys ↔ List.Forall₂ (fun x y => act x = .ok y) xs ys := by
  induction xs generalizing ys with
  | nil =>
      rw [List.mapM_nil, List.forall₂_nil_left_iff]
      exact ⟨fun same => (Except.ok.inj same).symm, fun none => none ▸ rfl⟩
  | cons x xs ih =>
      rw [List.mapM_cons, List.forall₂_cons_left_iff]
      cases first : act x with
      | error f => exact iff_of_false nofun fun ⟨_, _, done, _⟩ => nomatch done
      | ok y =>
          cases others : xs.mapM act with
          | error f =>
              refine iff_of_false nofun fun ⟨_, us, _, rest, _⟩ => ?_
              cases others.symm.trans (ih.2 rest)
          | ok us =>
              constructor
              · rintro ⟨⟩
                exact ⟨y, us, rfl, ih.1 others, rfl⟩
              · rintro ⟨y', us', done, rest, rfl⟩
                cases done
                cases others.symm.trans (ih.2 rest)
                rfl

theorem mapM_eq_error_iff : xs.mapM act = .error f ↔
    ∃ before x after, xs = before ++ x :: after ∧ (∀ u ∈ before, ∃ y, act u = .ok y) ∧
      act x = .error f := by
  induction xs with
  | nil => exact iff_of_false nofun fun ⟨before, _, _, whole, _⟩ => by cases before <;> cases whole
  | cons x xs ih =>
      rw [List.mapM_cons]
      cases first : act x with
      | error g =>
          constructor
          · rintro ⟨⟩
            exact ⟨[], x, xs, rfl, nofun, first⟩
          · rintro ⟨before, v, after, whole, fine, failed⟩
            cases before with
            | nil =>
                cases whole
                exact congrArg Except.error (Except.error.inj (first.symm.trans failed))
            | cons u before =>
                cases whole
                obtain ⟨y, done⟩ := fine x List.mem_cons_self
                cases first.symm.trans done
      | ok y =>
          have rest : (do let ys ← xs.mapM act; pure (y :: ys)) = .error f ↔
              xs.mapM act = .error f := by
            cases xs.mapM act with
            | error g => exact ⟨fun same => same, fun same => same⟩
            | ok us => exact iff_of_false nofun nofun
          refine rest.trans (ih.trans ⟨?_, ?_⟩)
          · rintro ⟨before, v, after, rfl, fine, failed⟩
            exact ⟨x :: before, v, after, rfl, List.forall_mem_cons.2 ⟨⟨y, first⟩, fine⟩, failed⟩
          · rintro ⟨before, v, after, whole, fine, failed⟩
            cases before with
            | nil =>
                cases whole
                cases first.symm.trans failed
            | cons u before =>
                cases whole
                exact ⟨before, v, after, rfl, (List.forall_mem_cons.1 fine).2, failed⟩

/-- An action on several values is done exactly when it is on each. -/
theorem mapM_returns_iff : (∃ ys, xs.mapM act = .ok ys) ↔ ∀ x ∈ xs, ∃ y, act x = .ok y := by
  constructor
  · rintro ⟨ys, done⟩ x member
    obtain ⟨i, rfl⟩ := List.mem_iff_get.1 member
    obtain ⟨sameLength, each⟩ := List.forall₂_iff_get.1 (mapM_eq_ok_iff.1 done)
    exact ⟨_, each i i.2 (sameLength ▸ i.2)⟩
  · intro each
    cases ended : xs.mapM act with
    | ok ys => exact ⟨ys, rfl⟩
    | error f =>
        obtain ⟨before, x, after, rfl, -, failed⟩ := mapM_eq_error_iff.1 ended
        obtain ⟨y, done⟩ := each x (by simp)
        cases failed.symm.trans done

end Several

/-! ## Faults that show a text -/

theorem Fault.showing_cases (shown : Except Fault String) (cause : String → Fault) :
    (∃ text, shown = .ok text ∧ Fault.showing shown cause = cause text) ∨
      ∃ f, shown = .error f ∧ Fault.showing shown cause = f := by
  cases shown with
  | ok text => exact .inl ⟨text, rfl, rfl⟩
  | error f => exact .inr ⟨f, rfl, rfl⟩

/-! ## Why a value cannot be written -/

/-- The fault is one that the writing of a value may meet. -/
inductive Fault.IsOfWriting : Fault → Prop
  | tooDeep : IsOfWriting .tooDeep
  | tooLong : IsOfWriting .unwritableInteger
  | refused (error : ForeignError) (text : String) : IsOfWriting (.foreign error text)

open Fault (IsOfWriting)

/-- What is made of a text fails as the text does. -/
theorem error_of_map {α β : Type} {x : Except Fault α} {g : α → β} {f : Fault}
    (failed : x.map g = .error f) : x = .error f := by
  cases x with
  | error f' => exact congrArg Except.error (Except.error.inj failed)
  | ok a => cases failed

/-- Two actions in a row fail as the first does, or as the second does after it. -/
theorem error_of_bind {α β : Type} {x : Except Fault α} {g : α → Except Fault β} {f : Fault}
    (failed : x.bind g = .error f) : x = .error f ∨ ∃ a, x = .ok a ∧ g a = .error f := by
  cases x with
  | error f' => exact .inl (congrArg Except.error (Except.error.inj failed))
  | ok a => exact .inr ⟨a, rfl, failed⟩

namespace Value

theorem integerText_fault {n : Int} {f : Fault} (failed : integerText n = .error f) :
    f.IsOfWriting := by
  unfold integerText at failed
  split at failed
  · cases failed
  · cases failed
    exact .tooLong

theorem thing_fault {t : Thing} {f : Fault} (failed : t.expression = .error f) :
    f.IsOfWriting := by
  unfold Thing.expression at failed
  split at failed
  · cases failed
  · cases failed
    exact .refused _ _

mutual

theorem expressionIn_fault : ∀ {room : Nat} {v : Value} {f : Fault},
    v.expressionIn room = .error f → f.IsOfWriting := by
  intro room v f failed
  cases room with
  | zero =>
      rw [expressionIn] at failed
      cases failed
      exact .tooDeep
  | succ room =>
      cases v with
      | int n =>
          rw [expressionIn] at failed
          exact integerText_fault failed
      | list items | tuple items | set items =>
          rw [expressionIn] at failed
          exact expressionsIn_fault (error_of_map failed)
      | dict entries =>
          rw [expressionIn] at failed
          exact entryExpressionsIn_fault (error_of_map failed)
      | thing t =>
          rw [expressionIn] at failed
          exact thing_fault failed
      | marker m =>
          rw [expressionIn] at failed
          exact marker_fault failed
      | _ =>
          rw [expressionIn] at failed
          cases failed

theorem expressionsIn_fault : ∀ {room : Nat} {vs : List Value} {f : Fault},
    expressionsIn room vs = .error f → f.IsOfWriting := by
  intro room vs f failed
  cases vs with
  | nil => cases failed
  | cons v vs =>
      unfold expressionsIn at failed
      rcases error_of_bind failed with first | ⟨_, -, rest⟩
      · exact expressionIn_fault first
      · exact expressionsIn_fault (error_of_map rest)

theorem entryExpressionsIn_fault : ∀ {room : Nat} {es : List (Value × Value)} {f : Fault},
    entryExpressionsIn room es = .error f → f.IsOfWriting := by
  intro room es f failed
  cases es with
  | nil => cases failed
  | cons e es =>
      unfold entryExpressionsIn at failed
      rcases error_of_bind failed with first | ⟨_, -, rest⟩
      · exact entryExpressionIn_fault first
      · exact entryExpressionsIn_fault (error_of_map rest)

theorem entryExpressionIn_fault : ∀ {room : Nat} {e : Value × Value} {f : Fault},
    entryExpressionIn room e = .error f → f.IsOfWriting := by
  intro room e f failed
  obtain ⟨k, v⟩ := e
  unfold entryExpressionIn at failed
  rcases error_of_bind failed with key | ⟨_, -, value⟩
  · exact expressionIn_fault key
  · exact expressionIn_fault (error_of_map value)

theorem marker_fault : ∀ {room : Nat} {m : Marker} {f : Fault},
    m.expressionIn room = .error f → f.IsOfWriting := by
  intro room m f failed
  cases m with
  | mk t attributes =>
      unfold Marker.expressionIn at failed
      split at failed
      · cases failed
        exact .tooDeep
      · exact attributeTextsIn_fault (error_of_map failed)

theorem attributeTextsIn_fault : ∀ {room : Nat} {as : List (String × Value)} {f : Fault},
    attributeTextsIn room as = .error f → f.IsOfWriting := by
  intro room as f failed
  cases as with
  | nil => cases failed
  | cons a as =>
      unfold attributeTextsIn at failed
      rcases error_of_bind failed with first | ⟨_, -, rest⟩
      · exact attributeTextIn_fault first
      · exact attributeTextsIn_fault (error_of_map rest)

theorem attributeTextIn_fault : ∀ {room : Nat} {a : String × Value} {f : Fault},
    attributeTextIn room a = .error f → f.IsOfWriting := by
  intro room a f failed
  obtain ⟨name, v⟩ := a
  unfold attributeTextIn at failed
  exact expressionIn_fault (error_of_map failed)

end

theorem expression_fault {v : Value} {f : Fault} (failed : v.expression = .error f) :
    f.IsOfWriting :=
  expressionIn_fault failed

theorem text_fault {v : Value} {f : Fault} (failed : v.text = .error f) : f.IsOfWriting := by
  unfold text at failed
  split at failed <;> first | exact expression_fault failed | cases failed

/-- Empty brackets, in brackets so many times. -/
def nested : Nat → Value
  | 0 => .list []
  | n + 1 => .list [nested n]

/-- Where there is no room for the innermost part, nothing is written. -/
theorem expressionIn_nested : ∀ {room depth : Nat}, room ≤ depth →
    (nested depth).expressionIn room = .error .tooDeep := by
  intro room depth narrow
  induction room generalizing depth with
  | zero => cases depth <;> rfl
  | succ room ih =>
      obtain ⟨depth, rfl⟩ := Nat.exists_eq_succ_of_ne_zero (by omega : depth ≠ 0)
      have inner := ih (Nat.le_of_succ_le_succ narrow)
      simp only [nested, expressionIn, expressionsIn, inner, Except.bind, Except.map]

/-- A value whose parts lie too deep cannot be written. -/
theorem expression_nested {depth : Nat} (deep : writingRoom ≤ depth) :
    (nested depth).expression = .error .tooDeep := expressionIn_nested deep

/-- What has no name is refused, unless it cannot even be written. -/
theorem qualifiedName_fault {v : Value} {f : Fault} (failed : v.qualifiedName = .error f) :
    f.errorClass = .type ∨ f.IsOfWriting := by
  unfold qualifiedName at failed
  split at failed
  · cases failed
    rcases Fault.showing_cases v.expression .noQualifiedName with ⟨text, -, shown⟩ | ⟨g, hidden, shown⟩
    · exact .inl (by rw [shown]; rfl)
    · exact .inr (shown ▸ expression_fault hidden)
  · exact .inr (text_fault (error_of_map failed))

end Value

/-- What has no key is refused, unless it cannot even be written. -/
theorem UnitKey.ofValue_fault {v : Value} {f : Fault} (failed : ofValue v = .error f) :
    f.errorClass = .type ∨ f.IsOfWriting := by
  unfold ofValue at failed
  split at failed
  · cases failed
  · split at failed
    · cases failed
      exact .inl rfl
    · cases failed
  · split at failed
    · exact Value.qualifiedName_fault (error_of_map failed)
    · split at failed
      · exact Value.qualifiedName_fault (error_of_map failed)
      · cases failed
        rcases Fault.showing_cases v.expression .noUnitKey with ⟨text, -, shown⟩ | ⟨g, hidden, shown⟩
        · exact .inl (by rw [shown]; rfl)
        · exact .inr (shown ▸ Value.expression_fault hidden)

end Marking
