/-
# Marking.Proofs.Registry.Halves -- which marker types have a handler and no rules, and since when

A registration that fails leaves the registry as it was, but for one whose rules cannot be listed:
it leaves the handler, and the marker type cannot be registered any more.  Registering a class and
loading a group come to such registrations as well (`Request.HalvesAt`).

So a marker type is half registered exactly when a request made it so and none took it out since
(`half_afterAll_iff`).  Taking it out is the only way to get rid of it, and fails with a fault that
is no missing handler, like listing the registrations does.

A registry that no request made half is `Whole`: every marker type with a handler has rules, and
neither kind of request fails like that.  What the registry remembers as its ordering matters
here: a half registered marker type that was taken out may still stand in it, so `Whole` does not
follow from what is registered now, and the invariant (`Listed`) is about the ordering.
-/
import Marking.Proofs.Ordering.Extension
import Marking.Proofs.Registry.Loading

set_option autoImplicit false

namespace Marking.Registry

variable {σ : Type} {r next : Registry σ} {t u : MarkerType}

/-! ## Requests -/

inductive Request (σ : Type) where
  | register (marker : Value) (offer : Offer σ) (rules : RuleOffer)
  /-- A class is asked for a handler first, which may fail. -/
  | registerMade (marker : Value) (made : Except Fault (Offer σ)) (rules : RuleOffer)
  | deregister (marker : Value)
  | ordering
  | markerTypes
  | entries
  | load (group : String) (points : List (EntryPoint σ))

namespace Request

def run (r : Registry σ) : Request σ → Except Fault Unit × Registry σ × Journal
  | register marker offer rules => r.register marker offer rules
  | registerMade marker made rules => r.registerMade marker made rules
  | deregister marker => r.deregister marker
  | ordering => (r.order.1.map fun _ => (), r.order.2)
  | markerTypes => (r.markerTypes.1.map fun _ => (), r.markerTypes.2)
  | entries => (r.registrations.1.map fun _ => (), r.registrations.2)
  | load group points =>
    ((r.loadGroup group points).1.map fun _ => (), (r.loadGroup group points).2)

/-- The request comes to a registration of the marker type that passes every check, and whose
rules cannot be listed.  In a group, it comes to an entry-point that no earlier one keeps it from. -/
def HalvesAt (r : Registry σ) (t : MarkerType) : Request σ → Prop
  | register marker offer rules => r.Halves marker offer rules t
  | registerMade marker made rules => ∃ offer, made = .ok offer ∧ r.Halves marker offer rules t
  | load group points => ∃ before p d,
      (∃ after, points.filter (fun p => p.group == group) = before ++ p :: after) ∧
      Unstopped r before ∧ p.publication? = some d ∧ d.marker.serial = t.serial ∧
      r.has t = false ∧ first? (publications before) t = none ∧ d.rules? = none
  | _ => False

/-- The request is to take the marker type out. -/
def Removes (t : MarkerType) : Request σ → Prop
  | deregister marker => ∃ u, marker.asMarkerType? = some u ∧ u.serial = t.serial
  | _ => False

end Request

def afterAll (qs : List (Request σ)) : Registry σ := qs.foldl (fun r q => (q.run r).2.1) {}

theorem afterAll_snoc (qs : List (Request σ)) (q : Request σ) :
    afterAll (qs ++ [q]) = (q.run (afterAll qs)).2.1 := by
  rw [afterAll, List.foldl_append]
  rfl

/-! ## What is half registered -/

theorem half_congr (handlers : next.handlers = r.handlers) (rules : next.rules = r.rules) :
    next.Half t ↔ r.Half t := by
  rw [Half, Half, has_iff, has_iff, handlers, rules]

theorem Owned.of_eq (owned : r.Owned) (handlers : next.handlers = r.handlers)
    (rules : next.rules = r.rules) : next.Owned := by
  intro t unknown
  rw [rules]
  refine owned t ?_
  rwa [Registry.has_eq_false, ← handlers, ← Registry.has_eq_false]

/-- Without a marker type, the others have their handlers still. -/
theorem has_without {rules : List (MarkerType × List Rule)} {ordering : Option Ordering} :
    ({ handlers := without r.handlers t, rules, ordering } : Registry σ).has u = true ↔
      t.serial ≠ u.serial ∧ r.has u = true := by
  rw [has_iff, has_iff, lookup_without]
  by_cases same : t.serial = u.serial <;> simp [same]

theorem lookup_rules_congr (same : t.serial = u.serial) : lookup r.rules t = lookup r.rules u := by
  rw [lookup_eq, lookup_eq, same]

/-- **A deregistration takes a half registered marker type out, though it fails**, and leaves the
other ones. -/
theorem Deregisters.half_iff {v : Value} {result : Except Fault Unit}
    (deregisters : Deregisters r v result next) (u : MarkerType) :
    next.Half u ↔ r.Half u ∧ ¬ (Request.deregister v : Request σ).Removes u := by
  have removes : ∀ {t : MarkerType}, v.asMarkerType? = some t →
      ((Request.deregister v : Request σ).Removes u ↔ t.serial = u.serial) := by
    intro t isType
    constructor
    · rintro ⟨t', isType', same⟩
      cases isType.symm.trans isType'
      exact same
    · exact fun same => ⟨t, isType, same⟩
  cases deregisters with
  | whole isType known listed =>
      rw [removes isType, Half, has_without, lookup_without, Half]
      constructor
      · rintro ⟨⟨other, known⟩, bare⟩
        rw [if_neg other] at bare
        exact ⟨⟨known, bare⟩, other⟩
      · rintro ⟨⟨known, bare⟩, other⟩
        exact ⟨⟨other, known⟩, (if_neg other).trans bare⟩
  | half isType half =>
      rw [removes isType, Half, has_without, Half]
      constructor
      · rintro ⟨⟨other, known⟩, bare⟩
        exact ⟨⟨known, bare⟩, other⟩
      · rintro ⟨⟨known, bare⟩, other⟩
        exact ⟨⟨other, known⟩, bare⟩
  | refused unknown _ =>
      refine (and_iff_left_of_imp ?_).symm
      rintro ⟨known, -⟩ ⟨t, isType, same⟩
      rw [← has_congr same, unknown t isType] at known
      cases known

theorem Deregisters.owned {v : Value} {result : Except Fault Unit} (owned : r.Owned)
    (deregisters : Deregisters r v result next) : next.Owned := by
  intro u gone
  have notHas : ¬ next.has u = true := by
    rw [gone]
    exact Bool.false_ne_true
  cases deregisters with
  | @whole t isType known listed =>
      rw [has_without, not_and] at notHas
      rw [lookup_without]
      by_cases same : t.serial = u.serial
      · exact if_pos same
      · exact (if_neg same).trans (owned u (Bool.eq_false_iff.2 (notHas same)))
  | @half t isType half =>
      rw [has_without, not_and] at notHas
      by_cases same : t.serial = u.serial
      · exact (lookup_rules_congr same).symm.trans half.2
      · exact owned u (Bool.eq_false_iff.2 (notHas same))
  | refused _ _ => exact owned u gone

/-! ## Groups -/

section Group

variable {ds : List (Publication σ)} {n : Nat} {ps : List (EntryPoint σ)}

theorem Stored.owned (owned : r.Owned) (stored : Stored r ds n next) : next.Owned := by
  intro t unknown
  obtain ⟨unknown, none⟩ := (stored.has_eq_false t).1 unknown
  rw [stored.lookup_rules, owned t unknown, none]
  exact ite_self _

/-- The first publication for a new marker type makes it half registered when its rules cannot be
listed. -/
theorem Stored.half_iff (owned : r.Owned) (stored : Stored r ds n next) :
    next.Half t ↔ r.Half t ∨
      r.has t = false ∧ ∃ d, first? ds t = some d ∧ d.rules? = none := by
  rw [Half, ← Bool.not_eq_false, stored.has_eq_false, stored.lookup_rules, Option.or_eq_none_iff, Half]
  cases known : r.has t with
  | true => simp
  | false => cases first? ds t <;> simp [owned t known]

/-- The first publication for a marker type comes from an entry-point, and none before it is for
the marker type. -/
theorem first?_publications {d : Publication σ} : first? (publications ps) t = some d ↔
    ∃ before p, (∃ after, ps = before ++ p :: after) ∧ p.publication? = some d ∧
      d.marker.serial = t.serial ∧ first? (publications before) t = none := by
  constructor
  · intro isFirst
    rw [first?, List.find?_eq_some_iff_append] at isFirst
    obtain ⟨same, ds, es, split, others⟩ := isFirst
    obtain ⟨front, rest, rfl, isFront, isRest⟩ := List.filterMap_eq_append_iff.1 split
    obtain ⟨idle, p, after, rfl, none, published, -⟩ := List.filterMap_eq_cons_iff.1 isRest
    refine ⟨front ++ idle, p, ⟨after, (List.append_assoc ..).symm⟩, published,
      MarkerType.beq_iff.1 same, ?_⟩
    rw [publications, List.filterMap_append, isFront, List.filterMap_eq_nil_iff.2 none,
      List.append_nil, first?, List.find?_eq_none]
    intro e member
    simpa using others e member
  · rintro ⟨before, p, ⟨after, rfl⟩, published, same, none⟩
    have split : publications (before ++ p :: after) =
        publications before ++ d :: publications after := by
      rw [publications, List.filterMap_append, List.filterMap_cons, published]
      rfl
    rw [split, first?_append, none, first?_cons, if_pos same]
    rfl

theorem Unstopped.left {before after : List (EntryPoint σ)} (unstopped : Unstopped r (before ++ after)) :
    Unstopped r before := by
  intro front p back f split
  exact unstopped front p (back ++ after) f (by rw [split, List.append_assoc, List.cons_append])

/-- A loading stores what is published by the entry-points that it comes to, which are those that
no earlier one keeps it from. -/
theorem Ends.reached {result : Except Fault Nat} (ends : Ends r ps result next) :
    ∃ reached n, Stored r (publications reached) n next ∧ ∀ before p,
      (∃ after, reached = before ++ p :: after) ↔
        (∃ after, ps = before ++ p :: after) ∧ Unstopped r before := by
  cases ends with
  | returned unstopped stored =>
      refine ⟨ps, _, stored, fun before p => (and_iff_left_of_imp ?_).symm⟩
      rintro ⟨after, rfl⟩
      exact unstopped.left
  | @stopped front back stop f n _ unstopped stops stored =>
      refine ⟨front ++ [stop], n, stored, fun before p => ⟨?_, ?_⟩⟩
      · rintro ⟨after, split⟩
        refine ⟨⟨after ++ back, ?_⟩, ?_⟩
        · rw [← List.singleton_append, ← List.append_assoc, split, List.append_assoc]
          rfl
        · rcases List.append_eq_append_iff.1 split with ⟨more, rfl, isMore⟩ | ⟨more, rfl, -⟩
          · rcases List.append_eq_singleton_iff.1 isMore.symm with ⟨rfl, -⟩ | ⟨-, absurd'⟩
            · rwa [List.append_nil]
            · cases absurd'
          · exact unstopped.left
      · rintro ⟨⟨after, split⟩, isUnstopped⟩
        rcases List.append_eq_append_iff.1 split with ⟨more, rfl, isMore⟩ | ⟨more, rfl, isMore⟩
        · cases more with
          | nil =>
              cases isMore
              exact ⟨[], by rw [List.append_nil]⟩
          | cons q more =>
              cases isMore
              exact absurd stops (isUnstopped front stop more f rfl)
        · cases more with
          | nil =>
              cases isMore
              exact ⟨[], by rw [List.append_nil]⟩
          | cons q more =>
              cases isMore
              exact ⟨more ++ [stop], by rw [List.append_assoc, List.cons_append]⟩

end Group

/-! ## Steps -/

theorem run_load (group : String) (points : List (EntryPoint σ)) :
    Ends r (points.filter fun p => p.group == group) (r.loadGroup group points).1
      ((Request.load group points).run r).2.1 :=
  r.loadEach_spec _

/-- **Each request keeps rules to marker types with a handler.** -/
theorem Owned.run (owned : r.Owned) (q : Request σ) : (q.run r).2.1.Owned := by
  cases q with
  | register marker offer rules => exact (r.register_spec marker offer rules).owned owned
  | registerMade marker made rules =>
      cases made with
      | error f => exact owned
      | ok offer => exact (r.register_spec marker offer rules).owned owned
  | deregister marker => exact (r.deregister_spec marker).owned owned
  | ordering => exact owned.of_eq r.order_handlers r.order_rules
  | markerTypes => exact owned.of_eq r.order_handlers r.order_rules
  | entries =>
      refine owned.of_eq ?_ ?_ <;> rw [Request.run, r.registrations_of_order.2]
      exacts [r.order_handlers, r.order_rules]
  | load group points =>
      obtain ⟨reached, n, stored, -⟩ := (run_load group points).reached
      exact stored.owned owned

/-- **A request makes half registered what it comes to, and undoes it only by taking it out.** -/
theorem Owned.half_run_iff (owned : r.Owned) (q : Request σ) (t : MarkerType) :
    (q.run r).2.1.Half t ↔ r.Half t ∧ ¬ q.Removes t ∨ q.HalvesAt r t := by
  -- Nothing but a deregistration takes anything out.
  have kept : ∀ {q : Request σ} {P : Prop}, (∀ v, q ≠ .deregister v) →
      ((q.run r).2.1.Half t ↔ r.Half t ∨ P) →
      ((q.run r).2.1.Half t ↔ r.Half t ∧ ¬ q.Removes t ∨ P) := by
    intro q P other iff
    have stays : ¬ q.Removes t := by
      cases q with
      | deregister v => exact absurd rfl (other v)
      | _ => exact id
    rw [iff, and_iff_left stays]
  have reads : r.order.2.1.Half t ↔ r.Half t ∨ False := by
    rw [or_false]
    exact half_congr r.order_handlers r.order_rules
  cases q with
  | register marker offer rules =>
      exact kept nofun ((r.register_spec marker offer rules).half_iff owned t)
  | registerMade marker made rules =>
      refine kept nofun ?_
      cases made with
      | error f => simp [Request.HalvesAt, Request.run, registerMade]
      | ok offer =>
          refine ((r.register_spec marker offer rules).half_iff owned t).trans (or_congr_right ?_)
          exact ⟨fun halves => ⟨offer, rfl, halves⟩, fun ⟨_, rfl, halves⟩ => halves⟩
  | deregister marker =>
      exact ((r.deregister_spec marker).half_iff t).trans (or_iff_left id).symm
  | ordering => exact kept nofun reads
  | markerTypes => exact kept nofun reads
  | entries =>
      refine kept nofun (Iff.trans ?_ reads)
      rw [Request.run, r.registrations_of_order.2]
  | load group points =>
      obtain ⟨reached, n, stored, comes⟩ := (run_load group points).reached
      refine kept nofun ((stored.half_iff owned).trans (or_congr_right ?_))
      simp only [first?_publications, comes, Request.HalvesAt]
      constructor
      · rintro ⟨new, d, ⟨before, p, ⟨inGroup, unstopped⟩, published, same, isFirst⟩, broken⟩
        exact ⟨before, p, d, inGroup, unstopped, published, same, new, isFirst, broken⟩
      · rintro ⟨before, p, d, inGroup, unstopped, published, same, new, isFirst, broken⟩
        exact ⟨new, d, ⟨before, p, ⟨inGroup, unstopped⟩, published, same, isFirst⟩, broken⟩

/-! ## Histories -/

theorem owned_afterAll (qs : List (Request σ)) : (afterAll qs).Owned := by
  induction qs using List.reverseRecOn with
  | nil => exact fun _ _ => rfl
  | append_singleton qs q ih =>
      rw [afterAll_snoc]
      exact ih.run q

/-- The requests made the marker type half registered, and none took it out since. -/
def LeftHalf (qs : List (Request σ)) (t : MarkerType) : Prop :=
  ∃ before q later, qs = before ++ q :: later ∧ q.HalvesAt (afterAll before) t ∧
    ∀ d ∈ later, ¬ d.Removes t

theorem leftHalf_snoc (qs : List (Request σ)) (q : Request σ) (t : MarkerType) :
    LeftHalf (qs ++ [q]) t ↔ LeftHalf qs t ∧ ¬ q.Removes t ∨ q.HalvesAt (afterAll qs) t := by
  constructor
  · rintro ⟨before, p, later, split, halves, stays⟩
    rcases List.eq_nil_or_concat later with rfl | ⟨later, last, rfl⟩
    · obtain ⟨rfl, isLast⟩ := List.append_inj' split rfl
      cases isLast
      exact .inr halves
    · rw [List.concat_eq_append, ← List.cons_append, ← List.append_assoc] at split
      obtain ⟨rfl, isLast⟩ := List.append_inj' split rfl
      cases isLast
      rw [List.concat_eq_append] at stays
      exact .inl ⟨⟨before, p, later, rfl, halves, fun d member =>
        stays d (List.mem_append_left _ member)⟩, stays q (by simp)⟩
  · rintro (⟨⟨before, p, later, rfl, halves, stays⟩, last⟩ | halves)
    · refine ⟨before, p, later ++ [q], by rw [List.append_assoc, List.cons_append], halves, ?_⟩
      intro d member
      rcases List.mem_append.1 member with earlier | isLast
      · exact stays d earlier
      · rwa [List.mem_singleton.1 isLast]
    · exact ⟨qs, q, [], rfl, halves, fun d member => absurd member List.not_mem_nil⟩

/-- **A marker type is half registered exactly when a request made it so and none took it out
since.** -/
theorem half_afterAll_iff (qs : List (Request σ)) (t : MarkerType) :
    (afterAll qs).Half t ↔ LeftHalf qs t := by
  induction qs using List.reverseRecOn with
  | nil =>
      have unknown : (afterAll ([] : List (Request σ))).has t = false := rfl
      refine iff_of_false ?_ ?_
      · rintro ⟨known, -⟩
        rw [unknown] at known
        cases known
      · rintro ⟨before, q, later, split, -⟩
        cases before <;> cases split
  | append_singleton qs q ih =>
      rw [afterAll_snoc, (owned_afterAll qs).half_run_iff, ih, leftHalf_snoc]

/-! ## Registries without halves -/

/-- What the registry remembers as its ordering has a handler. -/
def Listed (r : Registry σ) : Prop := ∀ o, r.ordering = some o → ∀ t ∈ o.order, r.has t = true

theorem has_of_registered (member : t ∈ r.registered) : r.has t = true := by
  obtain ⟨e, isEntry, rfl⟩ := List.mem_map.1 member
  rw [has_iff, lookup, Option.isSome_map, List.find?_isSome]
  exact ⟨e, isEntry, MarkerType.beq_iff.2 rfl⟩

/-- The ordering that is given is the remembered one, or made from scratch. -/
theorem order_cases (r : Registry σ) : (∃ o, r.ordering = some o ∧ r.order.1 = .ok o) ∨
    r.order.1 = (Ordering.ofRules r.registered r.rules).1 := by
  rw [Registry.order]
  cases kept : r.ordering with
  | some o => exact .inl ⟨o, rfl, rfl⟩
  | none =>
      refine .inr ?_
      cases Ordering.ofRules r.registered r.rules with
      | mk result notes => cases result <;> rfl

/-- The ordering that the registry gives lists marker types with handlers. -/
theorem Listed.order (listed : r.Listed) {o : Ordering} (given : r.order.1 = .ok o) :
    ∀ t ∈ o.order, r.has t = true := by
  intro t member
  rcases r.order_cases with ⟨o', kept, same⟩ | made
  · cases same.symm.trans given
    exact listed o kept t member
  · have order := (Ordering.ofRules_ok (made.symm.trans given)).perm
    exact has_of_registered ((Ordering.distinct_sublist _).subset (order.mem_iff.1 member))

/-- What is given when the ordering is asked for is remembered. -/
theorem order_remembers (r : Registry σ) : r.order.2.1.ordering = r.order.1.toOption := by
  rw [Registry.order]
  cases kept : r.ordering with
  | some o => exact kept
  | none =>
      dsimp only
      cases Ordering.ofRules r.registered r.rules with
      | mk result notes =>
          cases result with
          | error f => exact kept
          | ok o => rfl

theorem Listed.ordered (listed : r.Listed) : r.order.2.1.Listed := by
  intro o remembered t member
  rw [order_remembers] at remembered
  have given : r.order.1 = .ok o := by
    cases outcome : r.order.1 <;> rw [outcome] at remembered <;> cases remembered
    rfl
  rw [has_iff, r.order_handlers, ← has_iff]
  exact listed.order given t member

/-- With more handlers and the same ordering, or none, the ordering is listed still. -/
theorem Listed.grow (listed : r.Listed) (ordering : next.ordering = r.ordering ∨ next.ordering = none)
    (more : ∀ t, r.has t = true → next.has t = true) : next.Listed := by
  intro o remembered t member
  rcases ordering with same | forgotten
  · exact more t (listed o (same ▸ remembered) t member)
  · rw [forgotten] at remembered
    cases remembered

theorem Registers.listed {marker : Value} {offer : Offer σ} {rules : RuleOffer}
    {result : Except Fault Unit} (listed : r.Listed)
    (registers : Registers r marker offer rules result next) : next.Listed := by
  cases registers with
  | whole _ _ => exact listed.grow (.inr rfl) fun t known => has_store.2 (.inl known)
  | half _ _ => exact listed.grow (.inl rfl) fun t known => has_storeHandler.2 (.inl known)
  | refused _ => exact listed

/-- A deregistration forgets the ordering, but for one of what is half registered. -/
theorem Deregisters.listed {v : Value} {result : Except Fault Unit} (listed : r.Listed)
    (unhalved : ∀ t, ¬ r.Half t) (deregisters : Deregisters r v result next) : next.Listed := by
  cases deregisters with
  | whole _ _ _ =>
      intro o remembered
      cases remembered
  | half _ half => exact absurd half (unhalved _)
  | refused _ _ => exact listed

/-- **Each request keeps the ordering listed**, but for one that takes out what is half
registered. -/
theorem Listed.run (listed : r.Listed) (unhalved : ∀ t, ¬ r.Half t) (q : Request σ) :
    (q.run r).2.1.Listed := by
  cases q with
  | register marker offer rules => exact (r.register_spec marker offer rules).listed listed
  | registerMade marker made rules =>
      cases made with
      | error f => exact listed
      | ok offer => exact (r.register_spec marker offer rules).listed listed
  | deregister marker => exact (r.deregister_spec marker).listed listed unhalved
  | ordering => exact listed.ordered
  | markerTypes => exact listed.ordered
  | entries =>
      rw [Request.run, r.registrations_of_order.2]
      exact listed.ordered
  | load group points =>
      obtain ⟨reached, n, stored, -⟩ := (run_load group points).reached
      refine listed.grow ?_ fun t known => ?_
      · rw [stored.ordering]
        exact (em (n = 0)).imp (fun none => if_pos none) fun some => if_neg some
      · rw [← Bool.not_eq_false, stored.has_eq_false, known]
        exact fun both => Bool.noConfusion both.1

/-- Every registered marker type has a handler and rules, and nothing fails for the lack of one. -/
structure Whole (r : Registry σ) : Prop where
  both : ∀ t, r.has t = true ↔ (lookup r.rules t).isSome = true
  /-- Only a value that cannot be written for the message may fail with anything. -/
  deregister : ∀ v f, (r.deregister v).1 = .error f → f.errorClass = .key → f.IsOfWriting
  entries : ∀ f, r.registrations.1 = .error f → f.errorClass ≠ .key

/-- Marker types with handlers and rules are listed. -/
theorem registrationsOf_ok {ts : List MarkerType}
    (known : ∀ t ∈ ts, r.has t = true ∧ (lookup r.rules t).isSome = true) :
    ∃ regs, r.registrationsOf ts = .ok regs := by
  induction ts with
  | nil => exact ⟨[], rfl⟩
  | cons t ts ih =>
      obtain ⟨regs, listed⟩ := ih fun u member => known u (List.mem_cons_of_mem t member)
      obtain ⟨isHandler, isRuled⟩ := known t List.mem_cons_self
      obtain ⟨h, handler⟩ := Option.isSome_iff_exists.1 isHandler
      obtain ⟨rs, rules⟩ := Option.isSome_iff_exists.1 isRuled
      rw [registrationsOf, handler, rules, listed]
      exact ⟨_, rfl⟩

theorem order_error {f : Fault} (failed : r.order.1 = .error f) : ∃ names, f = .ruleCycle names := by
  rcases r.order_cases with ⟨o, -, given⟩ | made
  · exact nomatch given.symm.trans failed
  · exact Ordering.ofRules_error (made.symm.trans failed)

/-- **What is owned, listed and nowhere half is whole.** -/
theorem whole_of_unhalved (owned : r.Owned) (listed : r.Listed) (unhalved : ∀ t, ¬ r.Half t) :
    r.Whole := by
  have both : ∀ t, r.has t = true ↔ (lookup r.rules t).isSome = true := by
    intro t
    constructor
    · intro known
      rw [Option.isSome_iff_ne_none]
      exact fun bare => unhalved t ⟨known, bare⟩
    · intro ruled
      by_contra unknown
      rw [owned t (Bool.eq_false_iff.2 unknown)] at ruled
      cases ruled
  refine ⟨both, fun v f failed => ?_, fun f failed => ?_⟩
  · have deregisters := r.deregister_spec v
    rw [failed] at deregisters
    generalize (r.deregister v).2.1 = next at deregisters
    cases deregisters with
    | half _ half => exact absurd half (unhalved _)
    | refused _ other => exact other
  · rw [r.registrations_of_order.1] at failed
    cases given : r.order.1 with
    | error f' =>
        rw [given] at failed
        cases failed
        obtain ⟨names, rfl⟩ := order_error given
        exact nofun
    | ok o =>
        have known : ∀ t ∈ o.order, r.order.2.1.has t = true ∧
            (lookup r.order.2.1.rules t).isSome = true := by
          intro t member
          rw [has_iff, r.order_handlers, r.order_rules, ← has_iff, ← both, and_self]
          exact listed.order given t member
        obtain ⟨regs, isListed⟩ := registrationsOf_ok known
        rw [given] at failed
        exact absurd (isListed.symm.trans failed) nofun

def Unhalved (qs : List (Request σ)) : Prop :=
  ∀ before q later, qs = before ++ q :: later → ∀ t, ¬ q.HalvesAt (afterAll before) t

theorem Unhalved.listed {qs : List (Request σ)} (unhalved : Unhalved qs) :
    (∀ t, ¬ (afterAll qs).Half t) ∧ (afterAll qs).Listed := by
  induction qs using List.reverseRecOn with
  | nil => exact ⟨fun t half => absurd half.1 nofun, fun o remembered => nomatch remembered⟩
  | append_singleton qs q ih =>
      have earlier : Unhalved qs := by
        intro before p later split
        exact unhalved before p (later ++ [q]) (by rw [split, List.append_assoc, List.cons_append])
      obtain ⟨whole, listed⟩ := ih earlier
      rw [afterAll_snoc]
      refine ⟨fun t half => ?_, listed.run whole q⟩
      rcases ((owned_afterAll qs).half_run_iff q t).1 half with ⟨before, -⟩ | halves
      · exact whole t before
      · exact unhalved qs q [] rfl t halves

/-- A deregistration fails for the lack of rules exactly at what is half registered. -/
theorem deregister_key_iff (r : Registry σ) (v : Value) :
    (∃ f, (r.deregister v).1 = .error f ∧ f.errorClass = .key ∧ ¬ f.IsOfWriting) ↔
      ∃ t, v.asMarkerType? = some t ∧ r.Half t := by
  have deregisters := r.deregister_spec v
  generalize (r.deregister v).1 = result at deregisters ⊢
  generalize (r.deregister v).2.1 = next at deregisters
  cases deregisters with
  | whole isType _ ruled =>
      refine iff_of_false (fun ⟨_, failed, _⟩ => nomatch failed) ?_
      rintro ⟨t, isType', half⟩
      cases isType.symm.trans isType'
      exact ruled half.2
  | half isType half =>
      exact iff_of_true ⟨_, rfl, rfl, fun ofWriting => nomatch ofWriting⟩ ⟨_, isType, half⟩
  | refused unknown other =>
      refine iff_of_false ?_ ?_
      · rintro ⟨f, failed, isKey, notOfWriting⟩
        cases failed
        exact notOfWriting (other isKey)
      · rintro ⟨t, isType, known, -⟩
        rw [unknown t isType] at known
        cases known

/-- What is half registered cannot be registered any more. -/
theorem register_storeHandler {marker : Value} {h : Handler σ} (isType : marker.asMarkerType? = some t)
    (h' : Handler σ) (rules : RuleOffer) :
    ((r.storeHandler t h).register marker (.handler h') rules).1 =
      .error (.handlerPresent (Text.quoted t.fullName)) := by
  have known : (r.storeHandler t h).has t = true := has_storeHandler.2 (.inr rfl)
  rw [register, isType]
  simp only [known, if_true]

/-- **A registration that fails leaves no trace, unless it fails at rules that cannot be listed;
then it leaves the handler.**  A marker type has a handler and no rules exactly when a request came
to such a registration and none took the marker type out since.  Taking it out then fails with a
fault that is no missing handler, and so does nothing else that can be written.  After requests of
which none came to such a registration, every registered marker type has a handler and rules, and
nothing fails for the lack of one. -/
theorem registration_whole_or_half (σ : Type) :
    (∀ (r : Registry σ) marker offer rules f, (r.register marker offer rules).1 = .error f →
      ((r.register marker offer rules).2.1 = r ∧ ∀ t, ¬ r.Halves marker offer rules t) ∨
      ∃ t h, r.Admits marker offer t h ∧ rules.listed = .error f ∧
        (r.register marker offer rules).2.1 = r.storeHandler t h ∧
        ∀ h' rules', ((r.register marker offer rules).2.1.register marker (.handler h') rules').1 =
          .error (.handlerPresent (Text.quoted t.fullName))) ∧
    (∀ (qs : List (Request σ)) t, (afterAll qs).Half t ↔ LeftHalf qs t) ∧
    (∀ (r : Registry σ) v,
      (∃ f, (r.deregister v).1 = .error f ∧ f.errorClass = .key ∧ ¬ f.IsOfWriting) ↔
        ∃ t, v.asMarkerType? = some t ∧ r.Half t) ∧
    ∀ qs : List (Request σ), Unhalved qs → (afterAll qs).Whole := by
  refine ⟨?_, half_afterAll_iff, deregister_key_iff, ?_⟩
  · intro r marker offer rules f failed
    have registers := r.register_spec marker offer rules
    rw [failed] at registers
    generalize (r.register marker offer rules).2.1 = next at registers ⊢
    cases registers with
    | @half t h _ admits broken =>
        exact .inr ⟨t, h, admits, broken, rfl, register_storeHandler admits.isType⟩
    | refused refusal =>
        refine .inl ⟨rfl, ?_⟩
        rintro t ⟨t', h, f', admits, -⟩
        exact refusal.not_admits admits
  · intro qs unhalved
    obtain ⟨whole, listed⟩ := unhalved.listed
    exact whole_of_unhalved (owned_afterAll qs) listed whole

namespace Sample

/-- Two marker types are registered, one of them once more and in vain, and one is taken out. -/
def plain : List (Request Unit) :=
  [.register (.markerType first) (.handler idle) (.rules [⟨.after, second⟩]),
    .register (.markerType second) (.handler idle) .absent,
    .register (.markerType first) (.handler another) .absent, .entries,
    .deregister (.markerType second)]

theorem plain_whole : Unhalved plain ∧ (afterAll plain).Whole := by
  have unhalved : Unhalved plain := by
    intro before q later split t halves
    have member : q ∈ plain := by
      rw [split]
      exact List.mem_append_right _ List.mem_cons_self
    rw [plain] at member
    simp only [List.mem_cons, List.not_mem_nil, or_false] at member
    rcases member with rfl | rfl | rfl | rfl | rfl
    -- The rules of each registration can be listed.
    all_goals first
      | exact halves
      | obtain ⟨-, -, f, -, unlisted, -⟩ := halves
        cases unlisted
  exact ⟨unhalved, (registration_whole_or_half Unit).2.2.2 plain unhalved⟩

def broken : List (Request Unit) :=
  [.register (.markerType first) (.handler idle) (.unlisted (.notIterable "int"))]

/-- It fails, and leaves a marker type with a handler and no rules: this one can neither be
registered again, nor be listed or taken out without a fault.  When it was listed once, listing
fails even after it was taken out. -/
theorem broken_left_half :
    ((broken.map fun q => (q.run {}).1) = [.error (.notIterable "int")]) ∧
      (afterAll broken).has first = true ∧ lookup (afterAll broken).rules first = none ∧
      ((afterAll broken).register (.markerType first) (.handler idle) .absent).1 =
        .error (.handlerPresent (Text.quoted first.fullName)) ∧
      ((afterAll broken).registrations.1.map fun _ => ()) =
        .error (.noSuchUnit first.expression) ∧
      ((afterAll broken).deregister (.markerType first)).1 =
        .error (.noSuchUnit first.expression) ∧
      ((afterAll (broken ++ [.entries, .deregister (.markerType first)])).registrations.1.map
        fun _ => ()) = .error (.noSuchUnit first.expression) :=
  ⟨rfl, rfl, rfl, rfl, rfl, rfl, rfl⟩

end Sample

end Marking.Registry
