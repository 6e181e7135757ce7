/-
# Marking.Proofs.Registry.Storing -- what registering and deregistering store, also when they fail

A registration passes three checks or is refused without a trace (`Refusal`).  One that passes
them stores the handler first and looks at the rules then.  When the rules cannot be listed it
ends there: the handler stays, the marker type has no rules, and a remembered ordering is not
forgotten (`Registers.half`).  Such a marker type is `Half` registered.

Deregistering a half registered marker type takes the handler out and fails at the rules, with a
fault that is no missing handler (`Deregisters.half`).

Rules without a handler never come about (`Owned`).
-/
import Marking.Proofs.Registry.Replay
import Marking.Proofs.Value.Writing

set_option autoImplicit false

namespace Marking

def RuleOffer.listed : RuleOffer → Except Fault (List Rule)
  | absent => .ok []
  | rules rs => .ok rs
  | unlisted why => .error why

namespace Registry

variable {σ : Type} {r next : Registry σ} {marker : Value} {offer : Offer σ} {rules : RuleOffer}
  {t u : MarkerType} {h : Handler σ} {result : Except Fault Unit}

/-! ## Look-ups -/

section Lookup

variable {α : Type} {entries more : List (MarkerType × α)}

/-- Marker types are told apart by serial number. -/
theorem lookup_eq (entries : List (MarkerType × α)) (u : MarkerType) :
    lookup entries u = (entries.find? fun e => decide (e.1.serial = u.serial)).map Prod.snd :=
  rfl

theorem lookup_append : lookup (entries ++ more) u = (lookup entries u).or (lookup more u) := by
  rw [lookup, List.find?_append, Option.map_or]
  rfl

theorem lookup_cons (e : MarkerType × α) :
    lookup (e :: entries) u = if e.1.serial = u.serial then some e.2 else lookup entries u := by
  by_cases same : e.1.serial = u.serial <;> simp [lookup_eq, same]

theorem lookup_single {x : α} :
    lookup [(t, x)] u = if t.serial = u.serial then some x else none :=
  lookup_cons (t, x)

theorem lookup_without :
    lookup (without entries t) u = if t.serial = u.serial then none else lookup entries u := by
  have kept : ∀ e : MarkerType × α, (!(e.1 == t)) = decide (e.1.serial ≠ t.serial) := by
    intro e
    exact (decide_not).symm
  rw [lookup_eq, without, List.find?_filter]
  simp only [kept]
  by_cases same : t.serial = u.serial
  · rw [if_pos same, Option.map_eq_none_iff, List.find?_eq_none]
    intro e _ both
    simp only [decide_eq_true_iff] at both
    exact both.1 (both.2.trans same.symm)
  · rw [if_neg same, lookup_eq]
    congr 2
    funext e
    simp only [decide_eq_true_iff, decide_eq_decide]
    exact and_iff_right_of_imp fun isAsked isOther => same (isOther.symm.trans isAsked)

end Lookup

theorem has_iff : r.has u = true ↔ (lookup r.handlers u).isSome = true := Iff.rfl

theorem has_eq_false : r.has u = false ↔ lookup r.handlers u = none := by
  rw [has, handler?, Option.isSome_eq_false_iff, Option.isNone_iff_eq_none]

/-! ## Registering -/

/-- The marker type has a handler and no rules. -/
def Half (r : Registry σ) (t : MarkerType) : Prop := r.has t = true ∧ lookup r.rules t = none

/-- Only marker types with a handler have rules. -/
def Owned (r : Registry σ) : Prop := ∀ t, r.has t = false → lookup r.rules t = none

/-- With the handler of a marker type stored, and nothing else. -/
def storeHandler (r : Registry σ) (t : MarkerType) (h : Handler σ) : Registry σ :=
  { r with handlers := r.handlers ++ [(t, h)] }

/-- With a marker type registered: its handler and its rules are stored, and no ordering is
remembered. -/
def store (r : Registry σ) (t : MarkerType) (h : Handler σ) (rs : List Rule) : Registry σ where
  handlers := r.handlers ++ [(t, h)]
  rules := r.rules ++ [(t, rs)]

/-- The registration passes every check. -/
structure Admits (r : Registry σ) (marker : Value) (offer : Offer σ) (t : MarkerType)
    (h : Handler σ) : Prop where
  isType : marker.asMarkerType? = some t
  isHandler : offer = .handler h
  isNew : r.has t = false

/-- The registration fails at a check, with this fault.  What cannot be written for the message
fails with that. -/
inductive Refusal (r : Registry σ) : Value → Offer σ → Fault → Prop
  | notType {marker : Value} {offer : Offer σ} : marker.asMarkerType? = none →
      Refusal r marker offer (.showing marker.expression .notMarkerType)
  | notHandler {marker v : Value} {t : MarkerType} : marker.asMarkerType? = some t →
      Refusal r marker (.other v) (.showing v.expression fun shown => .notHandler shown t.name)
  | present {marker : Value} {t : MarkerType} {h : Handler σ} : marker.asMarkerType? = some t →
      r.has t = true → Refusal r marker (.handler h) (.handlerPresent (Text.quoted t.fullName))

theorem Refusal.not_admits {f : Fault} (refusal : Refusal r marker offer f) :
    ¬ r.Admits marker offer t h := by
  rintro ⟨isType, isHandler, isNew⟩
  cases refusal with
  | notType none =>
      rw [none] at isType
      cases isType
  | notHandler _ => cases isHandler
  | present isOther known =>
      rw [isType] at isOther
      cases isOther
      rw [isNew] at known
      cases known

/-- The three ways in which a registration ends: the outcome, and the registry that it leaves. -/
inductive Registers (r : Registry σ) (marker : Value) (offer : Offer σ) (rules : RuleOffer) :
    Except Fault Unit → Registry σ → Prop
  | whole {t : MarkerType} {h : Handler σ} {rs : List Rule} : r.Admits marker offer t h →
      rules.listed = .ok rs → Registers r marker offer rules (.ok ()) (r.store t h rs)
  | half {t : MarkerType} {h : Handler σ} {f : Fault} : r.Admits marker offer t h →
      rules.listed = .error f → Registers r marker offer rules (.error f) (r.storeHandler t h)
  | refused {f : Fault} : Refusal r marker offer f → Registers r marker offer rules (.error f) r

theorem register_spec (r : Registry σ) (marker : Value) (offer : Offer σ) (rules : RuleOffer) :
    Registers r marker offer rules (r.register marker offer rules).1
      (r.register marker offer rules).2.1 := by
  rw [register]
  cases isType : marker.asMarkerType? with
  | none => exact .refused (.notType isType)
  | some t =>
      cases offer with
      | other v => exact .refused (.notHandler isType)
      | handler h =>
          cases known : r.has t with
          | true =>
              simp only [known, if_true]
              exact .refused (.present isType known)
          | false =>
              simp only [known, Bool.false_eq_true, if_false]
              have admits : r.Admits marker (.handler h) t h := ⟨isType, rfl, known⟩
              cases rules with
              | absent => exact .whole admits rfl
              | rules rs => exact .whole admits rfl
              | unlisted why => exact .half admits rfl

/-- The registration passes every check for a marker type, and then its rules cannot be listed. -/
def Halves (r : Registry σ) (marker : Value) (offer : Offer σ) (rules : RuleOffer)
    (u : MarkerType) : Prop :=
  ∃ t h f, r.Admits marker offer t h ∧ rules.listed = .error f ∧ t.serial = u.serial

theorem has_storeHandler :
    (r.storeHandler t h).has u = true ↔ r.has u = true ∨ t.serial = u.serial := by
  rw [has_iff, has_iff, storeHandler, lookup_append, Option.isSome_or, Bool.or_eq_true,
    lookup_single]
  refine or_congr_right ?_
  by_cases same : t.serial = u.serial <;> simp [same]

theorem has_store {rs : List Rule} :
    (r.store t h rs).has u = true ↔ r.has u = true ∨ t.serial = u.serial :=
  has_storeHandler

theorem rules_store {rs : List Rule} : lookup (r.store t h rs).rules u = none ↔
    lookup r.rules u = none ∧ t.serial ≠ u.serial := by
  rw [store, lookup_append, Option.or_eq_none_iff, lookup_single]
  refine and_congr_right fun _ => ?_
  by_cases same : t.serial = u.serial <;> simp [same]

theorem has_congr (same : t.serial = u.serial) : r.has t = r.has u := by
  rw [has, has, handler?, handler?, lookup_eq, lookup_eq, same]

/-- **A registration makes its marker type half registered when its rules cannot be listed**, and
changes no other one. -/
theorem Registers.half_iff (owned : r.Owned) (registers : Registers r marker offer rules result next)
    (u : MarkerType) : next.Half u ↔ r.Half u ∨ r.Halves marker offer rules u := by
  cases registers with
  | @whole t h rs admits listed =>
      have notHalves : ¬ r.Halves marker offer rules u := by
        rintro ⟨-, -, f, -, broken, -⟩
        rw [listed] at broken
        cases broken
      rw [or_iff_left notHalves, Half, has_store, rules_store, Half]
      constructor
      · rintro ⟨known, none, other⟩
        exact ⟨known.resolve_right other, none⟩
      · rintro ⟨known, none⟩
        refine ⟨.inl known, none, fun same => ?_⟩
        rw [← has_congr same, admits.isNew] at known
        cases known
  | @half t h f admits broken =>
      rw [Half, has_storeHandler]
      constructor
      · rintro ⟨known | same, none⟩
        · exact .inl ⟨known, none⟩
        · exact .inr ⟨t, h, f, admits, broken, same⟩
      · rintro (⟨known, none⟩ | ⟨t', h', f', admits', -, same⟩)
        · exact ⟨.inl known, none⟩
        · have isSame : t' = t := Option.some.inj (admits'.isType.symm.trans admits.isType)
          have new : r.has u = false := (has_congr same).symm.trans admits'.isNew
          exact ⟨.inr (isSame ▸ same), owned u new⟩
  | refused refusal =>
      rw [or_iff_left]
      rintro ⟨t, h, f, admits, -⟩
      exact refusal.not_admits admits

theorem Registers.owned (owned : r.Owned) (registers : Registers r marker offer rules result next) :
    next.Owned := by
  intro u new
  have unknown : ¬ next.has u = true := by
    rw [new]
    exact Bool.false_ne_true
  cases registers with
  | whole admits listed =>
      rw [has_store, not_or] at unknown
      exact rules_store.2 ⟨owned u (Bool.eq_false_iff.2 unknown.1), unknown.2⟩
  | half admits broken =>
      rw [has_storeHandler, not_or] at unknown
      exact owned u (Bool.eq_false_iff.2 unknown.1)
  | refused refusal => exact owned u new

/-! ## Deregistering -/

/-- The three ways in which a deregistration ends. -/
inductive Deregisters (r : Registry σ) (v : Value) : Except Fault Unit → Registry σ → Prop
  | whole {t : MarkerType} : v.asMarkerType? = some t → r.has t = true →
      lookup r.rules t ≠ none → Deregisters r v (.ok ())
        { handlers := without r.handlers t, rules := without r.rules t, ordering := none }
  | half {t : MarkerType} : v.asMarkerType? = some t → r.Half t →
      Deregisters r v (.error (.noSuchUnit t.expression))
        { r with handlers := without r.handlers t }
  | refused {f : Fault} : (∀ t, v.asMarkerType? = some t → r.has t = false) →
      (f.errorClass = .key → f.IsOfWriting) → Deregisters r v (.error f) r

theorem handlerOf?_type {v : Value} (isType : v.asMarkerType? = some t) :
    r.handlerOf? v = .ok (r.handler? t) := by
  cases v with
  | markerType t' =>
      cases isType
      rfl
  | _ => cases isType

theorem handlerOf?_other (r : Registry σ) {v : Value} (isType : v.asMarkerType? = none) :
    r.handlerOf? v = .ok none ∨ ∃ shown, r.handlerOf? v = .error (.unhashable shown) := by
  rw [handlerOf?, isType, Value.requireHashable]
  cases v.unhashable? with
  | none => exact .inl rfl
  | some shown => exact .inr ⟨shown, rfl⟩

/-- A missing handler is reported, unless the value cannot be written for the message. -/
theorem handlerMissing_fault (v : Value) :
    (Fault.showing (shownName v) .handlerMissing).errorClass = .key →
      (Fault.showing (shownName v) .handlerMissing).IsOfWriting := by
  rcases Fault.showing_cases (shownName v) .handlerMissing with ⟨text, -, same⟩ | ⟨f, hidden, same⟩
  · rw [same]
    exact fun isKey => nomatch isKey
  · rw [same]
    intro _
    rcases error_of_bind hidden with whole | ⟨_, -, short⟩
    · exact Value.expression_fault whole
    · exact Value.expression_fault short

theorem deregister_spec (r : Registry σ) (v : Value) :
    Deregisters r v (r.deregister v).1 (r.deregister v).2.1 := by
  rw [deregister]
  cases isType : v.asMarkerType? with
  | none =>
      have unknown : ∀ t, v.asMarkerType? = some t → r.has t = false := by
        intro t is
        rw [isType] at is
        cases is
      rcases r.handlerOf?_other isType with none | ⟨shown, failed⟩
      · rw [none]
        exact .refused unknown (handlerMissing_fault v)
      · rw [failed]
        refine .refused unknown fun isKey => ?_
        cases isKey
  | some t =>
      rw [handlerOf?_type isType]
      cases found : r.handler? t with
      | none =>
          refine .refused (fun t' is => ?_) (handlerMissing_fault v)
          rw [isType] at is
          cases is
          rw [has, found]
          rfl
      | some h =>
          have known : r.has t = true := by
            rw [has, found]
            rfl
          cases listed : lookup r.rules t with
          | none => simpa only [listed] using Deregisters.half isType ⟨known, listed⟩
          | some rs =>
              simp only [listed]
              exact .whole isType known (by rw [listed]; exact Option.some_ne_none rs)

end Registry

end Marking
