/-
# Marking.Proofs.Settings.Reading -- how the reading of settings ends

Settings are read from the entries of a dictionary, which may have keys and values of all kinds.
The reading returns settings with one round or more exactly when every entry can be read
(`Reads`).  Otherwise it is refused, and nearly always with a fault of a value, which is what a
command reports.

Some kinds of dictionaries are refused with another fault (`Escapes`).  One has a key that names
no entry and is no text: such keys cannot be put in order among texts, nor be joined with them into
a message.  Two write the number of rounds as something that is no number, as nothing for
instance, or as an infinite number.  In the others a package, the merge policy or the group cannot
be written as a text, because its parts lie too deep in one another (`Unwritten`).  The fault of
such a dictionary is no fault of a value, and so it ends the command (`reading_ends`).

A command ends also in a fault of its own complaint: the message of a fault is read as a text with
styles, and may hold a tag that ends a style which was never begun.
-/
import Mathlib.Logic.Basic
import Marking.CommandLine
import Marking.Proofs.Value.Writing

set_option autoImplicit false

namespace Marking

/-! ## Values -/

namespace Value

def IsText (v : Value) : Prop := ∃ s, v = .str s

/-- A number, or a text or bytes that may write one. -/
def isNumeral : Value → Bool
  | .int _ | .bool _ | .float _ | .str _ | .bytes _ => true
  | _ => false

/-- The classes of the faults of values that are not even miswritten numbers. -/
inductive Uncounted : Value → ErrorClass → Prop
  | noNumber {v : Value} : v.isNumeral = false → Uncounted v .type
  | infinite {x : Float} {negative : Bool} : Number.Exact.ofFloat x = .infinite negative →
      Uncounted (.float x) .overflow

theorem misread_errorClass (literal : String) (base : Nat) (m : Number.Misread) :
    (misread literal base m).errorClass = .value := by
  cases m <;> rfl

theorem mapError_misread {α : Type} {literal : String} {base : Nat} {r : Except Number.Misread α}
    {f : Fault} (failed : r.mapError (misread literal base) = .error f) : f.errorClass = .value := by
  cases r with
  | ok _ => cases failed
  | error m =>
      cases failed
      exact misread_errorClass literal base m

theorem Uncounted.integer {v : Value} {c : ErrorClass} (uncounted : v.Uncounted c) :
    ∃ f, v.integer = .error f ∧ f.errorClass = c := by
  cases uncounted with
  | noNumber other =>
      cases v with
      | int _ | bool _ | float _ | str _ | bytes _ => cases other
      | _ => exact ⟨_, rfl, rfl⟩
  | infinite beyond => exact ⟨.infiniteInteger, by rw [Value.integer, beyond], rfl⟩

/-- A value that stands for no whole number is a miswritten one, or is not counted at all. -/
theorem integer_fault {v : Value} {f : Fault} (failed : v.integer = .error f) :
    f.errorClass = .value ∨ v.Uncounted f.errorClass := by
  cases v with
  | int _ | bool _ => cases failed
  | float x =>
      rw [Value.integer] at failed
      split at failed
      · cases failed
        exact .inl rfl
      · next beyond =>
          cases failed
          exact .inr (.infinite beyond)
      · cases failed
  | str _ | bytes _ => exact .inl (mapError_misread failed)
  | _ =>
      cases failed
      exact .inr (.noNumber rfl)

/-! ### Values without an order -/

theorem leafLt?_fault {a b : Value} {f : Fault} (failed : leafLt? a b = .error f) :
    f.errorClass = .type := by
  unfold leafLt? at failed
  split at failed
  · cases failed
  · cases failed
  · unfold momentLt? at failed
    split at failed
    · cases failed
      rfl
    · split at failed <;> cases failed
      rfl
  · cases failed
  · split at failed <;> cases failed
    rfl

mutual

/-- Two values that have no order have none for their types. -/
theorem lt?_fault : ∀ {a b : Value} {f : Fault}, lt? a b = .error f → f.errorClass = .type := by
  intro a b f failed
  unfold lt? at failed
  split at failed
  · split at failed
    · exact listLt?_fault failed
    · cases failed
      rfl
  · split at failed
    · exact listLt?_fault failed
    · cases failed
      rfl
  · exact leafLt?_fault failed

theorem listLt?_fault : ∀ {as bs : List Value} {f : Fault},
    listLt? as bs = .error f → f.errorClass = .type := by
  intro as bs f failed
  unfold listLt? at failed
  split at failed
  · cases failed
  · split at failed
    · cases failed
    · split at failed
      · exact listLt?_fault failed
      · exact lt?_fault failed

end

end Value

namespace Settings

variable {entries : List (Value × Value)} {s : Settings} {f : Fault}

/-! ## Keys that name no entry -/

/-- Some key that names no entry is no text. -/
def Misnamed (entries : List (Value × Value)) : Prop := ∃ k ∈ unknownKeys entries, ¬ k.IsText

theorem insertValue_perm {v : Value} {vs ws : List Value} (put : insertValue v vs = .ok ws) :
    ws.Perm (v :: vs) := by
  induction vs generalizing ws with
  | nil =>
      cases put
      exact List.Perm.refl _
  | cons w vs ih =>
      rw [insertValue] at put
      split at put
      · cases put
      · cases put
        exact List.Perm.refl _
      · cases inner : insertValue v vs with
        | error _ => simp [inner, Except.map] at put
        | ok us =>
            rw [inner] at put
            cases put
            exact ((ih inner).cons w).trans (.swap v w vs)

theorem sortValues_perm {vs ws : List Value} (sorted : sortValues vs = .ok ws) : ws.Perm vs := by
  induction vs generalizing ws with
  | nil =>
      cases sorted
      exact List.Perm.refl _
  | cons v vs ih =>
      rw [sortValues] at sorted
      cases inner : sortValues vs with
      | error _ => simp [inner, Except.bind] at sorted
      | ok us =>
          rw [inner] at sorted
          exact (insertValue_perm sorted).trans ((ih inner).cons v)

theorem insertValue_fault {v : Value} {vs : List Value} (failed : insertValue v vs = .error f) :
    f.errorClass = .type := by
  induction vs with
  | nil => cases failed
  | cons w vs ih =>
      rw [insertValue] at failed
      split at failed
      · next unordered =>
          cases failed
          exact Value.lt?_fault unordered
      · cases failed
      · cases inner : insertValue v vs with
        | error g =>
            rw [inner] at failed
            cases failed
            exact ih inner
        | ok us => simp [inner, Except.map] at failed

theorem sortValues_fault {vs : List Value} (failed : sortValues vs = .error f) :
    f.errorClass = .type := by
  induction vs with
  | nil => cases failed
  | cons v vs ih =>
      rw [sortValues] at failed
      cases inner : sortValues vs with
      | error g =>
          rw [inner] at failed
          cases failed
          exact ih inner
      | ok us =>
          rw [inner] at failed
          exact insertValue_fault failed

/-- Texts have an order. -/
theorem insertValue_texts {v : Value} {vs : List Value} (isText : v.IsText)
    (texts : ∀ w ∈ vs, w.IsText) : ∃ ws, insertValue v vs = .ok ws := by
  induction vs with
  | nil => exact ⟨_, rfl⟩
  | cons w vs ih =>
      obtain ⟨ws, put⟩ := ih fun u member => texts u (List.mem_cons_of_mem _ member)
      obtain ⟨a, rfl⟩ := isText
      obtain ⟨b, rfl⟩ := texts w List.mem_cons_self
      have compared : Value.lt? (.str a) (.str b) = .ok (Text.textLt a b) := by
        rw [Value.lt?] <;> first | rfl | nofun
      rw [insertValue, compared]
      cases Text.textLt a b with
      | true => exact ⟨_, rfl⟩
      | false => exact ⟨.str b :: ws, by rw [put]; rfl⟩

theorem sortValues_texts {vs : List Value} (texts : ∀ v ∈ vs, v.IsText) :
    ∃ ws, sortValues vs = .ok ws := by
  induction vs with
  | nil => exact ⟨_, rfl⟩
  | cons v vs ih =>
      obtain ⟨ws, sorted⟩ := ih fun u member => texts u (List.mem_cons_of_mem _ member)
      have inner : ∀ w ∈ ws, w.IsText := fun w member =>
        texts w (List.mem_cons_of_mem _ ((sortValues_perm sorted).mem_iff.1 member))
      obtain ⟨us, put⟩ := insertValue_texts (texts v List.mem_cons_self) inner
      exact ⟨us, by rw [sortValues, sorted]; exact put⟩

theorem textsOf_eq_ok {vs : List Value} :
    (∃ texts, textsOf vs = .ok texts) ↔ ∀ v ∈ vs, v.IsText := by
  induction vs with
  | nil => exact iff_of_true ⟨_, rfl⟩ nofun
  | cons v vs ih =>
      rw [List.forall_mem_cons, ← ih]
      by_cases isText : v.IsText
      · obtain ⟨s, rfl⟩ := isText
        rw [textsOf]
        cases textsOf vs with
        | ok texts => exact iff_of_true ⟨_, rfl⟩ ⟨⟨s, rfl⟩, _, rfl⟩
        | error g => exact iff_of_false nofun nofun
      · refine iff_of_false ?_ fun both => isText both.1
        rintro ⟨texts, listed⟩
        cases v with
        | str s => exact isText ⟨s, rfl⟩
        | _ => cases listed

theorem textsOf_fault {vs : List Value} (failed : textsOf vs = .error f) :
    f.errorClass = .type := by
  induction vs with
  | nil => cases failed
  | cons v vs ih =>
      cases v with
      | str s =>
          rw [textsOf] at failed
          cases inner : textsOf vs with
          | error g =>
              rw [inner] at failed
              cases failed
              exact ih inner
          | ok texts => simp [inner, Except.map] at failed
      | _ =>
          cases failed
          rfl

/-- Keys are refused by their names if all of them are texts, and for their types otherwise. -/
theorem refused_names (ks : List Value) :
    ∃ f, ((sortValues ks).bind fun sorted =>
        (textsOf sorted).bind fun texts => (.error (.unknownSettings texts) : Except Fault Unit)) =
          .error f ∧
      ((f.errorClass = .value ∧ ∀ k ∈ ks, k.IsText) ∨
        (f.errorClass = .type ∧ ¬ ∀ k ∈ ks, k.IsText)) := by
  cases sorted : sortValues ks with
  | error g =>
      refine ⟨g, rfl, .inr ⟨sortValues_fault sorted, fun texts => ?_⟩⟩
      obtain ⟨ws, ordered⟩ := sortValues_texts texts
      cases sorted.symm.trans ordered
  | ok ws =>
      have same : (∃ texts, textsOf ws = .ok texts) ↔ ∀ k ∈ ks, k.IsText := by
        rw [textsOf_eq_ok]
        exact forall_congr' fun v => imp_congr_left (sortValues_perm sorted).mem_iff
      cases listed : textsOf ws with
      | error g =>
          refine ⟨g, by simp [Except.bind, listed], .inr ⟨textsOf_fault listed, fun texts => ?_⟩⟩
          obtain ⟨names, isList⟩ := same.2 texts
          cases listed.symm.trans isList
      | ok names =>
          exact ⟨.unknownSettings names, by simp [Except.bind, listed],
            .inl ⟨rfl, same.1 ⟨_, listed⟩⟩⟩

theorem requireKnown_nil (known : unknownKeys entries = []) : requireKnown entries = .ok () := by
  rw [requireKnown, known]

theorem requireKnown_fault (unknown : unknownKeys entries ≠ []) :
    ∃ f, requireKnown entries = .error f ∧ ((f.errorClass = .value ∧ ¬ Misnamed entries) ∨
      (f.errorClass = .type ∧ Misnamed entries)) := by
  obtain ⟨f, refused, split⟩ := refused_names (unknownKeys entries).reverse
  simp only [List.mem_reverse] at split
  refine ⟨f, ?_, ?_⟩
  · rw [requireKnown]
    split
    · contradiction
    · exact refused
  · simpa only [Misnamed, not_exists, not_and, not_not, not_forall, exists_prop] using split

/-! ## Entry by entry -/

/-- What is read before the number of rounds can be read. -/
structure Begun (entries : List (Value × Value)) (s : Settings) : Prop where
  known : unknownKeys entries = []
  packages : ∃ vs, packagesOf (valueOf? entries "packages") = .ok vs ∧
    vs.mapM Value.text = .ok s.packages
  mergePolicy : policyOf (valueOf? entries "merge_policy") = .ok s.mergePolicy
  testMode : testModeOf (valueOf? entries "test_mode") = .ok s.testMode

/-- The entries write the settings. -/
structure Reads (entries : List (Value × Value)) (s : Settings) : Prop extends Begun entries s where
  strictOrder : s.strictOrder = ((valueOf? entries "strict_order").map Value.isTrue).getD false
  maxRounds : roundsOf (valueOf? entries "max_rounds") = .ok s.maxRounds
  handlerGroup : groupOf (valueOf? entries "handler_group") = .ok s.handlerGroup
  worked : 1 ≤ s.maxRounds

/-- The reading comes to a value that is to be written, and cannot be. -/
inductive Unwritten (entries : List (Value × Value)) : Fault → Prop
  /-- What is no merge policy is written on the way to its refusal. -/
  | mergePolicy {v : Value} {f : Fault} {vs : List Value} : unknownKeys entries = [] →
      packagesOf (valueOf? entries "packages") = .ok vs →
      valueOf? entries "merge_policy" = some v → v.expression = .error f → Unwritten entries f
  | packages {vs : List Value} {p : MergePolicy} {m : Option Bool} {f : Fault} :
      unknownKeys entries = [] → packagesOf (valueOf? entries "packages") = .ok vs →
      policyOf (valueOf? entries "merge_policy") = .ok p →
      testModeOf (valueOf? entries "test_mode") = .ok m → vs.mapM Value.text = .error f →
      Unwritten entries f
  | handlerGroup {s : Settings} {n : Int} {v : Value} {f : Fault} : Begun entries s →
      roundsOf (valueOf? entries "max_rounds") = .ok n →
      valueOf? entries "handler_group" = some v → v.text = .error f → Unwritten entries f

/-- The classes of the faults, other than those of a value, with which entries are refused. -/
inductive Escapes (entries : List (Value × Value)) : ErrorClass → Prop
  /-- A key that names no entry is no text. -/
  | misnamed : Misnamed entries → Escapes entries .type
  /-- A value cannot be written, and not only for its digits. -/
  | unwritten {f : Fault} : Unwritten entries f → f.errorClass ≠ .value →
      Escapes entries f.errorClass
  /-- The number of rounds is nothing that could be a number, or an infinite one. -/
  | uncounted {s : Settings} {v : Value} {c : ErrorClass} : Begun entries s →
      valueOf? entries "max_rounds" = some v → v.Uncounted c → Escapes entries c

theorem ofEntries_eq (entries : List (Value × Value)) :
    ofEntries entries =
      (requireKnown entries).bind fun _ =>
      (packagesOf (valueOf? entries "packages")).bind fun vs =>
      (policyOf (valueOf? entries "merge_policy")).bind fun mergePolicy =>
      (testModeOf (valueOf? entries "test_mode")).bind fun testMode =>
      (vs.mapM Value.text).bind fun packages =>
      (roundsOf (valueOf? entries "max_rounds")).bind fun maxRounds =>
      (groupOf (valueOf? entries "handler_group")).bind fun handlerGroup =>
      checked
        { packages, testMode, mergePolicy, maxRounds, handlerGroup
          strictOrder := ((valueOf? entries "strict_order").map Value.isTrue).getD false } := rfl

theorem valueOf?_cons (key : String) (v : Value) (entries : List (Value × Value)) (name : String) :
    valueOf? ((.str key, v) :: entries) name =
      if key = name then some v else valueOf? entries name := by
  have compared : Value.eq (.str key) (.str name) = (key == name) := by
    unfold Value.eq
    rfl
  rw [valueOf?, List.find?_cons, compared]
  by_cases same : key = name
  · rw [if_pos same, beq_iff_eq.2 same]
    rfl
  · rw [if_neg same, beq_false_of_ne same, valueOf?]

theorem packagesOf_fault {v : Option Value} (failed : packagesOf v = .error f) :
    f.errorClass = .value := by
  unfold packagesOf at failed
  split at failed <;> cases failed
  rfl

/-- What cannot be written fails with no fault of a value, a file or a document, unless it is merely
too long. -/
theorem isA_of_isOfWriting (ofWriting : f.IsOfWriting) (other : f.errorClass ≠ .value) :
    f.errorClass.isA .value = false ∧ f.errorClass.isA .system = false ∧
      f.errorClass.isA .document = false := by
  cases ofWriting with
  | tooDeep => exact ⟨rfl, rfl, rfl⟩
  | tooLong => exact absurd rfl other
  | refused e text => cases e <;> first | exact absurd rfl other | exact ⟨rfl, rfl, rfl⟩

/-- Only what cannot be written is refused otherwise than for the choice. -/
theorem notPolicy_fault (v : Value) : (notPolicy v).errorClass = .value ∨
    v.expression = .error (notPolicy v) := by
  unfold notPolicy
  split
  · exact .inl rfl
  · next f hidden =>
      split
      · exact .inl rfl
      · exact .inr hidden

theorem policyOf_fault {v : Option Value} (failed : policyOf v = .error f) :
    f.errorClass = .value ∨ ∃ u, v = some u ∧ u.expression = .error f := by
  unfold policyOf at failed
  split at failed
  · cases failed
  · cases failed
  · split at failed <;> cases failed
    exact .inl rfl
  · next u _ _ =>
      cases failed
      exact (notPolicy_fault u).imp_right fun hidden => ⟨u, rfl, hidden⟩

theorem policyOf_unwritten {v : Value} (hidden : v.expression = .error f)
    (other : f.errorClass ≠ .value) : policyOf (some v) = .error f := by
  have refused : policyOf (some v) = .error (notPolicy v) := by
    cases v with
    | policy _ | str _ => cases hidden
    | _ => rfl
  have isOther : f.isA .value = false := (isA_of_isOfWriting (Value.expression_fault hidden) other).1
  rw [refused, notPolicy, hidden]
  simp only [isOther, Bool.false_eq_true, if_false]

theorem testModeOf_fault {v : Option Value} (failed : testModeOf v = .error f) :
    f.errorClass = .value := by
  unfold testModeOf at failed
  split at failed <;> cases failed
  rfl

theorem mapM_text_fault {vs : List Value} (failed : vs.mapM Value.text = .error f) :
    f.IsOfWriting := by
  obtain ⟨before, v, after, -, -, hidden⟩ := mapM_eq_error_iff.1 failed
  exact Value.text_fault hidden

/-- What cannot be written fails as the writing of a value does. -/
theorem Unwritten.isOfWriting (unwritten : Unwritten entries f) : f.IsOfWriting := by
  cases unwritten with
  | mergePolicy _ _ _ hidden => exact Value.expression_fault hidden
  | packages _ _ _ _ hidden => exact mapM_text_fault hidden
  | handlerGroup _ _ _ hidden => exact Value.text_fault hidden

theorem checked_of_worked (worked : 1 ≤ s.maxRounds) : s.checked = .ok s := by
  rw [checked, if_neg (by omega)]

/-- Whole numbers can be written, unless they are too long, and that is a fault of a value. -/
theorem checked_fault (idle : ¬ 1 ≤ s.maxRounds) :
    ∃ f, s.checked = .error f ∧ f.errorClass = .value := by
  rw [checked, if_pos (by omega)]
  refine ⟨_, rfl, ?_⟩
  show (Fault.showing (Value.integerText s.maxRounds) .tooFewRounds).errorClass = .value
  unfold Value.integerText
  split <;> rfl

/-- Where the number of rounds cannot be reached, an entry before it is refused. -/
theorem ofEntries_stuck (stuck : ∀ s, ¬ Begun entries s) :
    ∃ f, ofEntries entries = .error f ∧ (f.errorClass = .value ∨
      (f.errorClass = .type ∧ Misnamed entries) ∨ Unwritten entries f) := by
  rw [ofEntries_eq]
  by_cases known : unknownKeys entries = []
  · rw [requireKnown_nil known]
    cases packages : packagesOf (valueOf? entries "packages") with
    | error f => exact ⟨f, rfl, .inl (packagesOf_fault packages)⟩
    | ok vs =>
        cases policy : policyOf (valueOf? entries "merge_policy") with
        | error f =>
            refine ⟨f, rfl, (policyOf_fault policy).imp_right fun ⟨v, written, hidden⟩ => ?_⟩
            exact .inr (.mergePolicy known packages written hidden)
        | ok mergePolicy =>
            cases mode : testModeOf (valueOf? entries "test_mode") with
            | error f => exact ⟨f, rfl, .inl (testModeOf_fault mode)⟩
            | ok testMode =>
                cases written : vs.mapM Value.text with
                | error f =>
                    exact ⟨f, by simp [Except.bind, written],
                      .inr (.inr (.packages known packages policy mode written))⟩
                | ok names =>
                    exact absurd ⟨known, ⟨vs, packages, written⟩, policy, mode⟩
                      (stuck { packages := names, mergePolicy, testMode })
  · obtain ⟨f, refused, named⟩ := requireKnown_fault known
    exact ⟨f, by rw [refused]; rfl, named.imp And.left .inl⟩

/-- From the number of rounds on. -/
theorem Begun.ofEntries_eq (begun : Begun entries s) :
    ofEntries entries =
      (roundsOf (valueOf? entries "max_rounds")).bind fun maxRounds =>
      (groupOf (valueOf? entries "handler_group")).bind fun handlerGroup =>
      checked
        { s with
          maxRounds, handlerGroup
          strictOrder := ((valueOf? entries "strict_order").map Value.isTrue).getD false } := by
  obtain ⟨vs, packages, written⟩ := begun.packages
  rw [Settings.ofEntries_eq, requireKnown_nil begun.known, packages, begun.mergePolicy,
    begun.testMode]
  simp only [Except.bind, written]

theorem Reads.ofEntries (reads : Reads entries s) : ofEntries entries = .ok s := by
  rw [reads.toBegun.ofEntries_eq, reads.maxRounds, reads.handlerGroup, ← reads.strictOrder]
  exact checked_of_worked reads.worked

/-- A value that cannot be written ends the reading, unless it is merely too long. -/
theorem Unwritten.ofEntries (unwritten : Unwritten entries f) (other : f.errorClass ≠ .value) :
    ofEntries entries = .error f := by
  cases unwritten with
  | mergePolicy known packages written hidden =>
      rw [ofEntries_eq, requireKnown_nil known, packages, written, policyOf_unwritten hidden other]
      rfl
  | packages known packages policy mode hidden =>
      rw [ofEntries_eq, requireKnown_nil known, packages, policy, mode]
      simp only [Except.bind, hidden]
  | handlerGroup begun rounds written hidden =>
      rw [begun.ofEntries_eq, rounds, written]
      simp only [Except.bind, groupOf, hidden]

theorem Escapes.ofEntries {c : ErrorClass} (escapes : Escapes entries c) :
    ∃ f, ofEntries entries = .error f ∧ f.errorClass = c := by
  cases escapes with
  | misnamed misnamed =>
      have unknown : unknownKeys entries ≠ [] := by
        obtain ⟨k, member, -⟩ := misnamed
        exact List.ne_nil_of_mem member
      obtain ⟨f, refused, ⟨-, texts⟩ | ⟨isType, -⟩⟩ := requireKnown_fault unknown
      · exact absurd misnamed texts
      · exact ⟨f, by rw [Settings.ofEntries_eq, refused]; rfl, isType⟩
  | unwritten unwritten other => exact ⟨_, unwritten.ofEntries other, rfl⟩
  | uncounted begun written uncounted =>
      obtain ⟨f, failed, isClass⟩ := uncounted.integer
      exact ⟨f, by rw [begun.ofEntries_eq, written, roundsOf, failed]; rfl, isClass⟩

/-- The fault of entries that escape is none of a value, nor of a file or a document. -/
theorem Escapes.isConfigFault (escapes : Escapes entries f.errorClass) :
    f.isA .value = false ∧ CommandLine.isConfigFault f = false := by
  suffices other : f.errorClass.isA .value = false ∧ f.errorClass.isA .system = false ∧
      f.errorClass.isA .document = false by
    obtain ⟨value, system, document⟩ := other
    refine ⟨value, ?_⟩
    rw [CommandLine.isConfigFault, Fault.isA, Fault.isA, Fault.isA, value, system, document]
    rfl
  generalize isClass : f.errorClass = c at escapes
  cases escapes with
  | misnamed _ => decide
  | uncounted _ _ uncounted => cases uncounted <;> decide
  | unwritten unwritten other => exact isA_of_isOfWriting unwritten.isOfWriting other

theorem groupOf_fault {v : Option Value} (failed : groupOf v = .error f) :
    ∃ u, v = some u ∧ u.text = .error f := by
  cases v with
  | none => cases failed
  | some v => exact ⟨v, rfl, failed⟩

/-- The ways in which the reading of entries ends. -/
inductive Ends (entries : List (Value × Value)) : Except Fault Settings → Prop
  | reads {s : Settings} : Reads entries s → Ends entries (.ok s)
  | refused {f : Fault} : f.errorClass = .value → Ends entries (.error f)
  | escapes {f : Fault} : Escapes entries f.errorClass → Ends entries (.error f)

theorem Unwritten.ends (unwritten : Unwritten entries f) : Ends entries (.error f) := by
  by_cases isValue : f.errorClass = .value
  · exact .refused isValue
  · exact .escapes (.unwritten unwritten isValue)

theorem Begun.rounds_fault (begun : Begun entries s)
    (failed : roundsOf (valueOf? entries "max_rounds") = .error f) : Ends entries (.error f) := by
  cases written : valueOf? entries "max_rounds" with
  | none =>
      rw [written] at failed
      cases failed
  | some v =>
      rw [written] at failed
      rcases Value.integer_fault failed with isValue | uncounted
      · exact .refused isValue
      · exact .escapes (.uncounted begun written uncounted)

/-- The settings that entries write which are begun, when the number of rounds and the group are
read. -/
def finished (s : Settings) (entries : List (Value × Value)) (maxRounds : Int)
    (handlerGroup : String) : Settings :=
  { s with
    maxRounds, handlerGroup
    strictOrder := ((valueOf? entries "strict_order").map Value.isTrue).getD false }

theorem Begun.ends (begun : Begun entries s) : Ends entries (ofEntries entries) := by
  rw [begun.ofEntries_eq]
  cases rounds : roundsOf (valueOf? entries "max_rounds") with
  | error f => exact begun.rounds_fault rounds
  | ok n =>
      cases group : groupOf (valueOf? entries "handler_group") with
      | error f =>
          obtain ⟨v, written, hidden⟩ := groupOf_fault group
          exact (Unwritten.handlerGroup begun rounds written hidden).ends
      | ok g =>
          show Ends entries (checked (s.finished entries n g))
          by_cases worked : 1 ≤ (s.finished entries n g).maxRounds
          · rw [checked_of_worked worked]
            exact .reads ⟨⟨begun.known, begun.packages, begun.mergePolicy, begun.testMode⟩, rfl,
              rounds, group, worked⟩
          · obtain ⟨f, refused, isValue⟩ := checked_fault worked
            rw [refused]
            exact .refused isValue

theorem ofEntries_spec (entries : List (Value × Value)) : Ends entries (ofEntries entries) := by
  by_cases begun : ∃ s, Begun entries s
  · obtain ⟨s, begun⟩ := begun
    exact begun.ends
  · obtain ⟨f, refused, isValue | ⟨isType, misnamed⟩ | unwritten⟩ :=
      ofEntries_stuck (not_exists.1 begun)
    · rw [refused]
      exact .refused isValue
    · rw [refused]
      exact .escapes (isType ▸ .misnamed misnamed)
    · rw [refused]
      exact unwritten.ends

theorem ofValue_dict (entries : List (Value × Value)) :
    ofValue (.dict entries) = ofEntries entries := by
  cases entries <;> rfl

/-- How the reading of a dictionary ends. -/
structure ReadingEnds (entries : List (Value × Value)) : Prop where
  /-- It returns the settings that the entries write, with one round or more. -/
  returns_iff : ∀ s, ofValue (.dict entries) = .ok s ↔ Reads entries s
  /-- It is refused with the fault of a value, or the entries escape. -/
  refused : ∀ f, ofValue (.dict entries) = .error f →
    f.errorClass = .value ∨ Escapes entries f.errorClass
  /-- Entries that escape are refused with a fault that is none of a value. -/
  escapes : ∀ c, Escapes entries c →
    ∃ f, ofValue (.dict entries) = .error f ∧ f.errorClass = c ∧ f.isA .value = false

theorem readingEnds (entries : List (Value × Value)) : ReadingEnds entries := by
  have ends := ofEntries_spec entries
  refine ⟨fun s => ?_, fun f failed => ?_, fun c escapes => ?_⟩
  · rw [ofValue_dict]
    refine ⟨fun returned => ?_, Reads.ofEntries⟩
    rw [returned] at ends
    cases ends with
    | reads reads => exact reads
  · rw [ofValue_dict] at failed
    rw [failed] at ends
    cases ends with
    | refused isValue => exact .inl isValue
    | escapes escapes => exact .inr escapes
  · obtain ⟨f, failed, isClass⟩ := escapes.ofEntries
    exact ⟨f, by rw [ofValue_dict, failed], isClass, (isClass ▸ escapes).isConfigFault.1⟩

/-- The entries of a document of settings, when these stand at the given places. -/
def documentEntries (d : Yaml.Document) (places : List (Nat × Nat)) : List (Value × Value) :=
  places.map fun e => (d.valueAt e.1, valueAt d (d.valueAt e.1) e.2)

theorem read_of_mapping {path text : String} {d : Yaml.Document} {places : List (Nat × Nat)}
    (isDocument : Yaml.read text = .ok d) (isMapping : d.part d.top = .dict places) :
    read path text = ofValue (.dict (documentEntries d places)) := by
  simp only [read, isDocument, Except.bind, isMapping, documentEntries]

end Settings

/-- The text is that of a mapping, and its entries pass a test. -/
def Yaml.isMappingWith (test : Yaml.Document → List (Nat × Nat) → Bool) (text : String) : Bool :=
  match Yaml.read text with
  | .ok d =>
    match d.part d.top with
    | .dict places => test d places
    | _ => false
  | .error _ => false

theorem Yaml.mapping_of_isMappingWith {test : Yaml.Document → List (Nat × Nat) → Bool}
    {text : String} (passed : Yaml.isMappingWith test text = true) :
    ∃ d places, Yaml.read text = .ok d ∧ d.part d.top = .dict places ∧ test d places = true := by
  unfold Yaml.isMappingWith at passed
  split at passed
  · next d isDocument =>
      split at passed
      · next places isMapping => exact ⟨d, places, isDocument, isMapping, passed⟩
      · cases passed
  · cases passed

/-! ## Commands -/

namespace CommandLine

open Settings

variable {folder : Folder} {path : String} {f : Fault} {console : Console}

def complaintOf (path : String) (f : Fault) : String :=
  if f.isA .fileMissing then "Config file not found: " ++ path
  else "Invalid config " ++ path ++ ": " ++ f.message

/-- What a command does that is asked for the settings at a path, and what it has said by then. -/
def loading (folder : Folder) (path : String) (console : Console) :
    Except Ending Settings × Console :=
  (settingsFor folder (some path)).run.run console

theorem loading_of_read {s : Settings}
    (read : (folder.read path).bind (Settings.read path) = .ok s) :
    loading folder path console = (.ok s, console) := by
  simp only [loading, settingsFor, read]
  rfl

/-- A complaint ends the command with the exit code 1, unless its styles are amiss. -/
theorem run_fail {α : Type} (s : String) :
    (Talk.fail s : Talk α).run.run console =
      match Text.Markup.plain ("[red]Error:[/red] " ++ s) with
      | .ok shown =>
        (.error (.exit 1), { console with complained := console.complained ++ Talk.linesOf shown })
      | .error g => (.error (.fault g), console) := by
  cases styled : Text.Markup.plain ("[red]Error:[/red] " ++ s) with
  | ok shown =>
      simp only [Talk.fail, Talk.complain, styled]
      rfl
  | error g =>
      simp only [Talk.fail, Talk.complain, styled]
      rfl

/-- A missing file is a fault of the file system. -/
theorem isConfigFault_of_fileMissing (missing : f.isA .fileMissing = true) :
    isConfigFault f = true := by
  have above : ∀ c : ErrorClass, c.isA .fileMissing = true → c.isA .system = true := by
    intro c
    cases c <;> decide
  rw [isConfigFault, Fault.isA, Fault.isA, Fault.isA, above _ missing, Bool.or_true]

theorem loading_of_reported (failed : (folder.read path).bind (Settings.read path) = .error f)
    (reported : isConfigFault f = true) :
    loading folder path console =
      (Talk.fail (complaintOf path f) : Talk Settings).run.run console := by
  simp only [loading, settingsFor, failed, complaintOf]
  cases f.isA .fileMissing with
  | true => rfl
  | false =>
      rw [reported]
      rfl

theorem loading_of_unhandled (failed : (folder.read path).bind (Settings.read path) = .error f)
    (unhandled : isConfigFault f = false) :
    loading folder path console = (.error (.fault f), console) := by
  have isFile : f.isA .fileMissing = false := by
    rw [← Bool.not_eq_true]
    intro missing
    rw [isConfigFault_of_fileMissing missing] at unhandled
    cases unhandled
  simp only [loading, settingsFor, failed, isFile, unhandled]
  rfl

/-- How a command goes on that loads the entries of a document of settings. -/
structure LoadingEnds (entries : List (Value × Value)) (path : String) (console : Console)
    (ended : Except Ending Settings × Console) : Prop where
  /-- It works with the settings that the entries write. -/
  settings : ∀ s, Reads entries s → ended = (.ok s, console)
  /-- It complains about other entries and exits with 1, if the complaint can be shown. -/
  complains : (∀ s, ¬ Reads entries s) → (∀ c, ¬ Escapes entries c) →
    ∃ f, ofValue (.dict entries) = .error f ∧
      match Text.Markup.plain ("[red]Error:[/red] " ++ complaintOf path f) with
      | .ok shown =>
        ended = (.error (.exit 1),
          { console with complained := console.complained ++ Talk.linesOf shown })
      | .error g => ended = (.error (.fault g), console)
  /-- It ends in the fault of entries that escape. -/
  escapes : ∀ c, Escapes entries c → ∃ f, f.errorClass = c ∧ ended = (.error (.fault f), console)

theorem loadingEnds {entries : List (Value × Value)}
    (read : (folder.read path).bind (Settings.read path) = ofValue (.dict entries)) :
    LoadingEnds entries path console (loading folder path console) := by
  obtain ⟨returns_iff, refused, escapes⟩ := readingEnds entries
  refine ⟨fun s reads => ?_, fun unread kept => ?_, fun c escaped => ?_⟩
  · exact loading_of_read (read.trans ((returns_iff s).2 reads))
  · cases ended : ofValue (.dict entries) with
    | ok s => exact absurd ((returns_iff s).1 ended) (unread s)
    | error f =>
        have isValue : f.errorClass = .value := (refused f ended).resolve_right (kept _)
        have reported : isConfigFault f = true := by
          rw [isConfigFault, Fault.isA, isValue]
          rfl
        refine ⟨f, rfl, ?_⟩
        rw [loading_of_reported (read.trans ended) reported, run_fail]
        split <;> rfl
  · obtain ⟨f, failed, isClass, -⟩ := escapes c escaped
    have unhandled := (isClass ▸ escaped : Escapes entries f.errorClass).isConfigFault.2
    exact ⟨f, isClass, loading_of_unhandled (read.trans failed) unhandled⟩

/-- **Settings are read, or refused with the fault of a value, unless their entries escape**: and
then the fault ends the command that asked for them, which otherwise complains and exits. -/
theorem reading_ends (entries : List (Value × Value)) :
    ReadingEnds entries ∧
      ∀ folder path text d places console, Folder.read folder path = .ok text →
        Yaml.read text = .ok d → d.part d.top = .dict places → documentEntries d places = entries →
        LoadingEnds entries path console (loading folder path console) := by
  refine ⟨readingEnds entries, ?_⟩
  rintro folder path text d places console isFile isDocument isMapping rfl
  refine loadingEnds ?_
  rw [isFile, Except.bind]
  exact read_of_mapping isDocument isMapping

namespace Sample

def folderOf (text : String) : Folder := ({} : Folder).withFile ["c.yaml"] text

def unwritten : String := "max_rounds:\n"

/-- The class of the fault in which a command ends. -/
def faultClass? (ended : Except Ending Settings × Console) : Option ErrorClass :=
  match ended.1 with
  | .error (.fault f) => some f.errorClass
  | _ => none

/-- A dictionary that says nothing but the number of rounds. -/
def onlyRounds (v : Value) : List (Value × Value) := [(.str "max_rounds", v)]

theorem begun_onlyRounds (v : Value) : Begun (onlyRounds v) {} := by
  refine ⟨rfl, ⟨[], ?_, rfl⟩, ?_, ?_⟩ <;> rw [onlyRounds, valueOf?_cons, if_neg (by decide)] <;> rfl

theorem escapes_onlyRounds {v : Value} {c : ErrorClass} (uncounted : v.Uncounted c) :
    Escapes (onlyRounds v) c :=
  .uncounted (begun_onlyRounds v) (by rw [onlyRounds, valueOf?_cons, if_pos rfl]) uncounted

/-- Settings are refused with faults that are none of a value, and such a fault ends a command.  So
does a fault of the complaint about a fault of a value. -/
theorem foreign_faults :
    (∃ f, ofValue (.dict (onlyRounds .null)) = .error f ∧ f.errorClass = .type ∧
      f.isA .value = false) ∧
    (∃ f, ofValue (.dict (onlyRounds (.float (1 / 0)))) = .error f ∧ f.errorClass = .overflow ∧
      f.isA .value = false) ∧
    (∃ f, ofValue (.dict [(.int 1, .null)]) = .error f ∧ f.errorClass = .type ∧
      f.isA .value = false) ∧
    (∃ f, ofValue (.dict [(.str "packages", .list [.nested 1100])]) = .error f ∧
      f.errorClass = .recursion ∧ f.isA .value = false) ∧
    faultClass? (loading (folderOf unwritten) "c.yaml" {}) = some .type ∧
    faultClass? (loading (folderOf "'[/x]': 1\n") "c.yaml" {}) = some .markup := by
  have infinite : Number.Exact.ofFloat (1 / 0) = .infinite false := by rfl
  have misnamed : Misnamed [(.int 1, .null)] := ⟨.int 1, List.mem_singleton_self _, nofun⟩
  have deep : Unwritten [(.str "packages", .list [.nested 1100])] .tooDeep := by
    have packages : packagesOf (valueOf? [(.str "packages", .list [.nested 1100])] "packages") =
        .ok [.nested 1100] := by
      rw [valueOf?_cons, if_pos rfl]
      rfl
    have left (name : String) (other : "packages" ≠ name) :
        valueOf? [(.str "packages", .list [.nested 1100])] name = none := by
      rw [valueOf?_cons, if_neg other]
      rfl
    refine .packages rfl packages (congrArg policyOf (left _ (by decide)))
      (congrArg testModeOf (left _ (by decide))) ?_
    exact mapM_eq_error_iff.2 ⟨[], .nested 1100, [], rfl, nofun, Value.expression_nested (by decide)⟩
  refine ⟨(readingEnds _).escapes _ (escapes_onlyRounds (.noNumber rfl)),
    (readingEnds _).escapes _ (escapes_onlyRounds (.infinite infinite)),
    (readingEnds _).escapes _ (.misnamed misnamed),
    (readingEnds _).escapes .recursion (.unwritten deep nofun), ?_, ?_⟩
  · decide +kernel
  · decide +kernel

/-- The number of rounds is there and is nothing. -/
def isUnwritten (d : Yaml.Document) (places : List (Nat × Nat)) : Bool :=
  match documentEntries d places with
  | [(.str "max_rounds", .null)] => true
  | _ => false

theorem unwritten_ends : ∃ d places,
    Folder.read (folderOf unwritten) "c.yaml" = .ok unwritten ∧ Yaml.read unwritten = .ok d ∧
      d.part d.top = .dict places ∧ documentEntries d places = onlyRounds .null ∧
      Escapes (onlyRounds .null) .type ∧ ReadingEnds (onlyRounds .null) ∧
      LoadingEnds (onlyRounds .null) "c.yaml" {} (loading (folderOf unwritten) "c.yaml" {}) := by
  have isFile : Folder.read (folderOf unwritten) "c.yaml" = .ok unwritten := by rfl
  have passed : Yaml.isMappingWith isUnwritten unwritten = true := by decide +kernel
  obtain ⟨d, places, isDocument, isMapping, shaped⟩ := Yaml.mapping_of_isMappingWith passed
  have entries : documentEntries d places = onlyRounds .null := by
    unfold isUnwritten at shaped
    split at shaped
    · assumption
    · cases shaped
  obtain ⟨reading, loading⟩ := reading_ends (onlyRounds .null)
  exact ⟨d, places, isFile, isDocument, isMapping, entries,
    escapes_onlyRounds (.noNumber rfl), reading,
    loading _ _ _ d places {} isFile isDocument isMapping entries⟩

end Sample

end CommandLine

end Marking
