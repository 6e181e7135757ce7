/-
# Marking.Proofs.Registry.Repetition -- loading published handlers once more

A registry is exhausted for some entry-points when there is nothing left in them to register: what
each of them publishes can be looked up, if it describes a handler, its marker type has one, and if
it describes none, it can be written for the message that refuses it (`Exhausted`).  The handler
may be another one, and it may be without rules.

Loading such entry-points registers nothing and leaves the registry as it is
(`Ends.of_exhausted`), and a loading that returns leaves a registry that is exhausted for what it
loaded (`Ends.exhausted`).  The second loading meets other cases than the first one: what was
stored by a later entry-point is found by an earlier one, and a handler whose rules were refused
is found by its own.  All of them are passed over (`loading_idempotent`).
-/
import Marking.Proofs.Registry.Loading

set_option autoImplicit false

namespace Marking.Registry

variable {σ : Type} {r next final : Registry σ} {ps : List (EntryPoint σ)}
  {ds : List (Publication σ)} {d : Publication σ} {n : Nat} {result : Except Fault Nat}

/-! ## Nothing left to register -/

/-- Each entry-point publishes something that can be looked up, nothing for a marker type without a
handler, and nothing to be refused that cannot be written. -/
def Exhausted (r : Registry σ) (ps : List (EntryPoint σ)) : Prop :=
  ∀ p ∈ ps, p.unhashable? = none ∧ (∀ d, p.publication? = some d → r.has d.marker = true) ∧
    ∀ f, ¬ Unwritten r p f

theorem mem_publications : d ∈ publications ps ↔ ∃ p ∈ ps, p.publication? = some d :=
  List.mem_filterMap

theorem newcomers_eq_nil (known : ∀ d ∈ ds, r.has d.marker = true) :
    newcomers r.handlers ds = [] := by
  induction ds with
  | nil => rfl
  | cons d ds ih =>
      obtain ⟨here, rest⟩ := List.forall_mem_cons.1 known
      rw [newcomers, if_pos (has_iff.1 here), ih rest]

/-- Without a newcomer nothing is stored. -/
theorem Stored.unchanged (stored : Stored r ds n next) (none : newcomers r.handlers ds = []) :
    n = 0 ∧ next = r := by
  obtain ⟨handlers, rules, ordering, count⟩ := stored
  rw [none] at handlers rules count
  have isNone : n = 0 := count
  rw [if_pos isNone] at ordering
  obtain ⟨nextHandlers, nextRules, nextOrdering⟩ := next
  obtain ⟨oldHandlers, oldRules, oldOrdering⟩ := r
  rw [List.map_nil, List.append_nil] at handlers
  rw [List.filterMap_nil, List.append_nil] at rules
  cases handlers
  cases rules
  cases ordering
  exact ⟨isNone, rfl⟩

/-- No kind of fault is left. -/
theorem Exhausted.not_stops (exhausted : Exhausted r ps) {before : List (EntryPoint σ)}
    {p : EntryPoint σ} {f : Fault} (member : p ∈ ps) : ¬ Stops r before p f := by
  obtain ⟨hashable, known, written⟩ := exhausted p member
  rintro (unhashable | ⟨unwritten, -⟩ | ⟨published, isNew, -⟩)
  · rw [hashable] at unhashable
    cases unhashable
  · exact written f unwritten
  · rw [known _ published] at isNew
    cases isNew

theorem Exhausted.known (exhausted : Exhausted r ps) :
    ∀ d ∈ publications ps, r.has d.marker = true := by
  intro d published
  obtain ⟨p, member, isPublished⟩ := mem_publications.1 published
  exact (exhausted p member).2.1 d isPublished

/-- **Loading what a registry is exhausted for registers nothing and changes nothing.** -/
theorem Ends.of_exhausted (ends : Ends r ps result final) (exhausted : Exhausted r ps) :
    result = .ok 0 ∧ final = r := by
  cases ends with
  | returned unstopped stored =>
      obtain ⟨rfl, same⟩ := stored.unchanged (newcomers_eq_nil exhausted.known)
      exact ⟨rfl, same⟩
  | @stopped before after p f n _ unstopped stops stored =>
      have member : p ∈ before ++ p :: after :=
        List.mem_append_right before List.mem_cons_self
      exact absurd stops (exhausted.not_stops member)

/-! ## What a loading leaves -/

/-- What is published for a marker type has a first publication. -/
theorem first?_ne_none (published : d ∈ ds) : first? ds d.marker ≠ none := by
  intro none
  have other := List.find?_eq_none.1 none d published
  exact other (MarkerType.beq_iff.2 rfl)

theorem Stored.has_of_mem (stored : Stored r ds n next) (published : d ∈ ds) :
    next.has d.marker = true := by
  cases known : next.has d.marker with
  | true => rfl
  | false => exact absurd ((stored.has_eq_false d.marker).1 known).2 (first?_ne_none published)

theorem Unstopped.hashable (unstopped : Unstopped r ps) {p : EntryPoint σ} (member : p ∈ ps) :
    p.unhashable? = none := by
  obtain ⟨before, after, split⟩ := List.append_of_mem member
  cases unhashable : p.unhashable? with
  | none => rfl
  | some f => exact absurd (.unhashable unhashable) (unstopped before p after f split)

/-- What the loading met could be written, if it was to be refused. -/
theorem Unstopped.written (unstopped : Unstopped r ps) (stored : Stored r (publications ps) n next)
    {p : EntryPoint σ} (member : p ∈ ps) (f : Fault) : ¬ Unwritten next p f := by
  rintro ⟨x, content, hashable, new, refusal, other⟩
  obtain ⟨before, after, rfl⟩ := List.append_of_mem member
  have unknown (t : MarkerType) (isType : x.marker.asMarkerType? = some t) :
      r.has t = false ∧ first? (publications before) t = none := by
    obtain ⟨isNew, none⟩ := (stored.has_eq_false t).1 (new t isType)
    rw [publications, List.filterMap_append, first?_append, Option.or_eq_none_iff] at none
    exact ⟨isNew, none.1⟩
  refine unstopped before p after f rfl (.unwritten ⟨x, content, hashable,
    fun t isType => (unknown t isType).1, refusal.of_new new r, other⟩ fun x' t content' isType => ?_)
  cases content.symm.trans content'
  exact (unknown t isType).2

/-- **A loading that returns leaves nothing to register.** -/
theorem Ends.exhausted (ends : Ends r ps (.ok n) next) : Exhausted next ps := by
  cases ends with
  | returned unstopped stored =>
      intro p member
      refine ⟨unstopped.hashable member, fun d isPublished => ?_, unstopped.written stored member⟩
      exact stored.has_of_mem (mem_publications.2 ⟨p, member, isPublished⟩)

/-- **Loading a group once more**, after a loading that returned, registers nothing; handlers,
rules and the remembered ordering stay as the first loading left them. -/
theorem loading_idempotent (r : Registry σ) (group : String) (points : List (EntryPoint σ))
    (returned : (r.loadGroup group points).1 = .ok n) :
    let next := (r.loadGroup group points).2.1
    (next.loadGroup group points).1 = .ok 0 ∧ (next.loadGroup group points).2.1 = next := by
  intro next
  have first := r.loadEach_spec (points.filter fun p => p.group == group)
  have again := next.loadEach_spec (points.filter fun p => p.group == group)
  rw [loadGroup] at returned
  rw [returned] at first
  exact again.of_exhausted first.exhausted

namespace Sample

/-- Rules that are refused, the same marker type in full, and another marker type. -/
def crowded : List (EntryPoint Unit) :=
  [unruled, good, point "other" ⟨.markerType second, .handler idle, .rules [⟨.before, first⟩]⟩,
    point "junk" ⟨.null, .other .null, .absent⟩]

/-- The first loading registers one and leaves one half registered; the second one nothing. -/
theorem crowded_again :
    (({} : Registry Unit).loadGroup "sample" crowded).1 = .ok 1 ∧
      let next := (({} : Registry Unit).loadGroup "sample" crowded).2.1
      (next.loadGroup "sample" crowded).1 = .ok 0 ∧
        (next.loadGroup "sample" crowded).2.1 = next :=
  ⟨rfl, loading_idempotent {} "sample" crowded rfl⟩

end Sample

end Marking.Registry
