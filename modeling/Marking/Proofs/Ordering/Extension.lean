/-
# Marking.Proofs.Ordering.Extension -- the order that the rules leave no choice about

Rules between marker types are met by many orders.  An `Ordering` has the first of them, when
orders are compared at the first place where they differ by which marker type was registered
earlier (`ofRules_isFirstOrder`); there is no other such order.

What the rules amount to are their placements (`Places`), and nothing but the placements is
looked at (`order_congr`).  So it makes no difference in which order the rules are given, how
often one is repeated, on which of the two marker types it stands, or what else is said of marker
types that are not registered.
-/
import Marking.Proofs.Ordering.Placement

set_option autoImplicit false

namespace Marking.Ordering

variable {ms markers order : List MarkerType} {rules rules' : List (MarkerType × List Rule)}

/-! ## Marker types by their first places -/

theorem distinct_snoc (ms : List MarkerType) (m : MarkerType) :
    distinct (ms ++ [m]) = keepNew (distinct ms) m := by
  rw [distinct, List.foldl_append]
  rfl

theorem serials_snoc (ms : List MarkerType) (m : MarkerType) :
    serials (ms ++ [m]) = serials ms ++ [m.serial] :=
  List.map_append

/-- No marker type is lost, and none is made up. -/
theorem mem_serials_distinct {ms : List MarkerType} {s : Nat} :
    s ∈ serials (distinct ms) ↔ s ∈ serials ms := by
  induction ms using List.reverseRecOn generalizing s with
  | nil => rfl
  | append_singleton ms m ih =>
      rw [distinct_snoc, keepNew, serials_snoc, List.mem_append, List.mem_singleton]
      split
      · next known =>
          rw [contains_iff, ih] at known
          rw [ih]
          exact ⟨Or.inl, fun either => either.elim id fun same => same ▸ known⟩
      · rw [serials_snoc, List.mem_append, List.mem_singleton, ih]

theorem distinct_sublist (ms : List MarkerType) : (distinct ms).Sublist ms := by
  induction ms using List.reverseRecOn with
  | nil => exact List.Sublist.slnil
  | append_singleton ms m ih =>
      rw [distinct_snoc, keepNew]
      split
      · exact ih.trans (List.sublist_append_left ms [m])
      · exact ih.append (List.Sublist.refl [m])

/-- The first marker type was registered before the second: its first place in the list, repeated
or not, comes earlier. -/
def Earlier (ms : List MarkerType) (m n : MarkerType) : Prop :=
  (serials ms).idxOf m.serial < (serials ms).idxOf n.serial

/-- A marker type that joins at the end changes no first place. -/
theorem Earlier.snoc {a b : MarkerType} (earlier : Earlier ms a b)
    (known : b.serial ∈ serials ms) (m : MarkerType) : Earlier (ms ++ [m]) a b := by
  have aKnown : a.serial ∈ serials ms :=
    List.idxOf_lt_length_iff.1 (earlier.trans (List.idxOf_lt_length_of_mem known))
  rw [Earlier, serials_snoc, List.idxOf_append_of_mem aKnown, List.idxOf_append_of_mem known]
  exact earlier

theorem earlier_new {a m : MarkerType} (known : a.serial ∈ serials ms)
    (new : m.serial ∉ serials ms) : Earlier (ms ++ [m]) a m := by
  rw [Earlier, serials_snoc, List.idxOf_append_of_mem known, List.idxOf_append_of_notMem new]
  exact (List.idxOf_lt_length_of_mem known).trans_le (Nat.le_add_right _ _)

/-- What is kept stands in the order of registration. -/
theorem distinct_sorted (ms : List MarkerType) : (distinct ms).Pairwise (Earlier ms) := by
  induction ms using List.reverseRecOn with
  | nil => exact List.Pairwise.nil
  | append_singleton ms m ih =>
      have known : ∀ a ∈ distinct ms, a.serial ∈ serials ms := fun a member =>
        mem_serials_distinct.1 (List.mem_map_of_mem member)
      have old : (distinct ms).Pairwise (Earlier (ms ++ [m])) :=
        ih.imp_of_mem fun _ bMember earlier => earlier.snoc (known _ bMember) m
      rw [distinct_snoc, keepNew]
      split
      · exact old
      · next new =>
          rw [contains_iff, mem_serials_distinct] at new
          refine List.pairwise_append.2 ⟨old, List.pairwise_singleton _ m, fun a member b last => ?_⟩
          rw [List.mem_singleton.1 last]
          exact earlier_new (known a member) new

/-! ## What is placed among distinct marker types -/

theorem places_distinct : Places (distinct ms) rules = Places ms rules := by
  funext s t
  simp only [Places, mem_serials_distinct]

theorem cyclic_distinct : Cyclic (distinct ms) rules ↔ Cyclic ms rules := by
  rw [Cyclic, Cyclic, places_distinct]

def statements (rules : List (MarkerType × List Rule)) : List (MarkerType × Rule) :=
  rules.flatMap fun owned => owned.2.map fun r => (owned.1, r)

theorem mem_statements {x : MarkerType × Rule} :
    x ∈ statements rules ↔ ∃ owned ∈ rules, ∃ r ∈ owned.2, (owned.1, r) = x := by
  simp only [statements, List.mem_flatMap, List.mem_map]

theorem exists_statement_iff (chosen : MarkerType × Rule → Prop) :
    (∃ owned ∈ rules, ∃ r ∈ owned.2, chosen (owned.1, r)) ↔ ∃ x ∈ statements rules, chosen x := by
  constructor
  · rintro ⟨owned, inAll, r, inRules, is⟩
    exact ⟨(owned.1, r), mem_statements.2 ⟨owned, inAll, r, inRules, rfl⟩, is⟩
  · rintro ⟨x, stated, is⟩
    obtain ⟨owned, inAll, r, inRules, rfl⟩ := mem_statements.1 stated
    exact ⟨owned, inAll, r, inRules, is⟩

/-- Only what is stated counts, not where and how often. -/
theorem places_of_statements (same : ∀ x, x ∈ statements rules ↔ x ∈ statements rules')
    (s t : Nat) : Places ms rules s t ↔ Places ms rules' s t := by
  let demands (x : MarkerType × Rule) : Prop :=
    (x.2.side = .before ∧ x.1.serial = s ∧ x.2.marker.serial = t) ∨
      (x.2.side = .after ∧ x.2.marker.serial = s ∧ x.1.serial = t)
  refine and_congr_right fun _ => and_congr_right fun _ => and_congr_right fun _ => ?_
  rw [exists_statement_iff demands, exists_statement_iff demands]
  simp only [same]

/-! ## The first order -/

/-- The first marker type has to come after the second. -/
def ComesAfter (ms : List MarkerType) (rules : List (MarkerType × List Rule))
    (m n : MarkerType) : Prop :=
  Places ms rules n.serial m.serial

/-- Of all orders of the distinct marker types that meet every placement, the first one by
registration. -/
abbrev IsFirstOrder (ms : List MarkerType) (rules : List (MarkerType × List Rule))
    (order : List MarkerType) : Prop :=
  IsLeastExtension (ComesAfter ms rules) (Earlier ms) (distinct ms) order

theorem earliestFirst_markers (rules : List (MarkerType × List Rule))
    (nodup : (serials markers).Nodup) :
    EarliestFirst (ComesAfter markers rules) markers []
      ((emittedAt markers rules).map (markerAt markers)) := by
  have byPosition := Precedence.countdown_earliestFirst (precedence markers (edgesOf markers rules))
  have waits : ∀ i ∈ (precedence markers (edgesOf markers rules)).positions,
      ∀ j ∈ (precedence markers (edgesOf markers rules)).positions,
      (precedence markers (edgesOf markers rules)).Waits i j ↔
        ComesAfter markers rules (markerAt markers i) (markerAt markers j) :=
    fun i iMember j jMember =>
      waits_iff_awaits (inside_positions iMember) (inside_positions jMember)
  have emitted := byPosition.map (markerAt markers)
    (fun i iMember j jMember same => serial_markerAt_injective nodup (inside_positions iMember)
      (inside_positions jMember) (congrArg MarkerType.serial same))
    waits (fun _ member => nomatch member)
  rwa [Precedence.positions, size_precedence, map_markerAt_range] at emitted

/-- **An ordering has the first order that meets the rules.** -/
theorem ofRules_isFirstOrder {o : Ordering} (made : (ofRules ms rules).1 = .ok o) :
    IsFirstOrder ms rules o.order := by
  have nodup := serials_distinct_nodup ms
  have perm := (ofRules_ok made).perm
  rw [ofRules_eq] at made
  split at made
  · next ps found =>
      cases made
      obtain ⟨rfl, -⟩ := emittedAt_perm found
      have order : markersAt (distinct ms) (emittedAt (distinct ms) rules) =
          (emittedAt (distinct ms) rules).map (markerAt (distinct ms)) :=
        markersAt_eq_map fun i member => emittedAt_lt _ _ member
      have emitted := earliestFirst_markers rules nodup
      rw [← order] at emitted
      have first := emitted.isLeastExtension (List.Nodup.of_map MarkerType.serial nodup)
        (distinct_sorted ms) fun m member => perm.mem_iff.2 member
      have waits : ComesAfter (distinct ms) rules = ComesAfter ms rules := by
        funext m n
        exact congrFun (congrFun places_distinct n.serial) m.serial
      rwa [waits] at first
  · cases made

theorem ofRules_refused_iff : (∃ f, (ofRules ms rules).1 = .error f) ↔ Cyclic ms rules :=
  ofRules_fails_iff.trans cyclic_distinct

/-- Orders are made from the placements alone, and so are refusals. -/
theorem order_congr (same : ∀ s t, Places ms rules s t ↔ Places ms rules' s t) :
    (ofRules ms rules).1.map Ordering.order = (ofRules ms rules').1.map Ordering.order := by
  have edges : ∀ m n : MarkerType,
      (edgesOf (distinct ms) rules).any (fun e => e.1 == m && e.2 == n) =
        (edgesOf (distinct ms) rules').any (fun e => e.1 == m && e.2 == n) := by
    intro m n
    rw [Bool.eq_iff_iff, any_edgesOf_iff, any_edgesOf_iff, places_distinct, places_distinct]
    exact same m.serial n.serial
  have needs : precedence (distinct ms) (edgesOf (distinct ms) rules) =
      precedence (distinct ms) (edgesOf (distinct ms) rules') := by
    simp only [precedence, edges]
  rw [ofRules_eq, ofRules_eq, needs]
  cases (precedence (distinct ms) (edgesOf (distinct ms) rules')).leastOrder? with
  | some ps => rfl
  | none => rfl

/-- **The rules decide the order.**  Rules whose placements form a ring are refused, and nothing
else is.  Otherwise the order is the first one, by registration, of all that meet the placements;
and any rules with the same placements, such as the same rules in another order or repeated, are
answered alike. -/
theorem rules_decide_order (ms : List MarkerType) (rules : List (MarkerType × List Rule)) :
    ((∃ f, (ofRules ms rules).1 = .error f) ↔ Cyclic ms rules) ∧
      (∀ f, (ofRules ms rules).1 = .error f → ∃ names, f = .ruleCycle names) ∧
      (∀ o, (ofRules ms rules).1 = .ok o →
        ∀ order, IsFirstOrder ms rules order ↔ order = o.order) ∧
      (∀ rules', (∀ s t, Places ms rules s t ↔ Places ms rules' s t) →
        (ofRules ms rules).1.map Ordering.order = (ofRules ms rules').1.map Ordering.order) ∧
      ∀ rules', (∀ x, x ∈ statements rules ↔ x ∈ statements rules') →
        (ofRules ms rules).1.map Ordering.order = (ofRules ms rules').1.map Ordering.order := by
  refine ⟨ofRules_refused_iff, fun f failed => ofRules_error failed, fun o made order => ?_,
    fun rules' same => order_congr same,
    fun rules' same => order_congr (places_of_statements same)⟩
  have first := ofRules_isFirstOrder made
  constructor
  · intro isFirst
    exact isFirst.unique (fun _ _ => Nat.lt_asymm) first
  · rintro rfl
    exact first

namespace Sample

def early : MarkerType := .derive .root 2 "Early" (some "sample") none

def middle : MarkerType := .derive .root 3 "Middle" (some "sample") none

def late : MarkerType := .derive .root 4 "Late" (some "sample") none

def stranger : MarkerType := .derive .root 5 "Stranger" (some "sample") none

/-- One placement, stated three times and from both sides, among rules without effect. -/
def talkative : List (MarkerType × List Rule) :=
  [(early, [⟨.after, late⟩, ⟨.after, late⟩, ⟨.before, stranger⟩]), (stranger, [⟨.before, early⟩]),
    (late, [⟨.before, late⟩, ⟨.before, early⟩])]

/-- The placement, stated once. -/
def terse : List (MarkerType × List Rule) := [(late, [⟨.before, early⟩])]

theorem same_placements (s t : Nat) : Places [middle, early, late, early] talkative s t ↔
    Places [middle, early, late, early] terse s t := by
  have number : early.serial = 2 ∧ middle.serial = 3 ∧ late.serial = 4 ∧ stranger.serial = 5 :=
    ⟨rfl, rfl, rfl, rfl⟩
  simp only [Places, talkative, terse, serials, number, List.map_cons, List.map_nil, List.mem_cons,
    List.not_mem_nil, or_false, exists_eq_or_imp, ↓existsAndEq, reduceCtorEq, false_and, true_and,
    false_or, and_congr_right_iff]
  omega

theorem talkative_decides :
    (∀ order, IsFirstOrder [middle, early, late, early] talkative order ↔
        order = [middle, late, early]) ∧
      (ofRules [middle, early, late, early] talkative).1.map Ordering.order =
        (ofRules [middle, early, late, early] terse).1.map Ordering.order := by
  obtain ⟨-, -, first, alike, -⟩ := rules_decide_order [middle, early, late, early] talkative
  have distincts : distinct [middle, early, late, early] = [middle, early, late] := rfl
  have places : (precedence [middle, early, late]
      (edgesOf [middle, early, late] talkative)).leastOrder? = some [0, 2, 1] := by decide +kernel
  have made : (ofRules [middle, early, late, early] talkative).1 =
      .ok ⟨[middle, early, late], edgesOf [middle, early, late] talkative,
        [middle, late, early]⟩ := by
    rw [ofRules_eq, distincts, places]
    rfl
  exact ⟨first _ made, alike terse same_placements⟩

end Sample

end Marking.Ordering
