/-
# Marking.Proofs.Engine.FixedPoint -- retrying reaches the least fixed point

A piece of work may wait for what another one makes.  Let the handlers of a run be governed by
a relation `en`: a call of `x` succeeds exactly when `en x S` holds of the set `S` of what has
succeeded so far.  If `en` is monotone, what succeeds in the end is the least set that holds
everything it enables (`Run.Returns.succeeded_isLeast`): nothing succeeds that need not, since
every success was enabled by earlier ones, and nothing is given up too early, since all that is
left was called in vain in a last round in which nothing changed.

So the outcome does not depend on the order of the calls.  Two runs over the same declarations
and marker types discover the same tasks (`SameWork.task_iff`) and finish the same of them
(`SameWork.finished_of_finished`), whatever the order of the scanner and of the registrations,
the rules, the dependencies and the settings.
-/
import Mathlib.Order.Bounds.Basic
import Mathlib.Order.CompletePartialOrder
import Mathlib.Data.Set.Lattice
import Marking.Proofs.Engine.Conservation

set_option autoImplicit false

namespace Marking

open Entry (isDone)

variable {σ τ : Type}

def finishedBy (cs : List (HandlerCall σ)) : Set (Delegate σ) :=
  {x | ∃ c ∈ cs, c.delegate = x ∧ c.succeeded = true}

/-- A call of a delegate succeeds exactly when `en` holds of it and what is finished so far. -/
def Run.Governed (r : Run σ) (en : Delegate σ → Set (Delegate σ) → Prop) : Prop :=
  ∀ before c after, r.calls = before ++ c :: after →
    (c.succeeded = true ↔ en c.delegate (finishedBy before))

/-- The sets that hold every discovered delegate that they enable. -/
def Run.closedSets (r : Run σ) (en : Delegate σ → Set (Delegate σ) → Prop) :
    Set (Set (Delegate σ)) :=
  {S | ∀ x ∈ r.discovered, en x S → x ∈ S}

/-- There are at least as many rounds as delegates. -/
def Run.HasRounds (r : Run σ) : Prop :=
  r.discovered.length ≤ r.engine.settings.maxRounds.toNat

instance (r : Run σ) : Decidable r.HasRounds := inferInstanceAs (Decidable (_ ≤ _))

theorem finishedBy_append (cs ds : List (HandlerCall σ)) :
    finishedBy (cs ++ ds) = finishedBy cs ∪ finishedBy ds := by
  ext x
  simp only [finishedBy, Set.mem_ofPred_eq, Set.mem_union, List.mem_append, or_and_right, exists_or]

theorem finishedBy_of_failed {cs : List (HandlerCall σ)}
    (failed : ∀ c ∈ cs, c.succeeded = false) : finishedBy cs = ∅ := by
  rw [Set.eq_empty_iff_forall_notMem]
  rintro x ⟨c, member, -, succeeded⟩
  rw [failed c member] at succeeded
  cases succeeded

/-! ## One run -/

/-- Whatever succeeded was enabled by what had succeeded before. -/
theorem Run.Governed.finishedBy_subset {r : Run σ} {en : Delegate σ → Set (Delegate σ) → Prop}
    (governed : r.Governed en) (monotone : ∀ x, Monotone (en x))
    (within : ∀ c ∈ r.calls, c.delegate ∈ r.discovered) {S : Set (Delegate σ)}
    (closed : S ∈ r.closedSets en) {cs after : List (HandlerCall σ)}
    (split : r.calls = cs ++ after) : finishedBy cs ⊆ S := by
  induction cs using List.reverseRecOn generalizing after with
  | nil =>
      rintro x ⟨c, member, -⟩
      cases member
  | append_singleton cs c ih =>
      rw [List.append_assoc, List.singleton_append] at split
      have before := ih split
      rintro x ⟨d, member, isDelegate, succeeded⟩
      rcases List.mem_append.1 member with early | here
      · exact before ⟨d, early, isDelegate, succeeded⟩
      · rw [List.mem_singleton] at here
        subst here isDelegate
        have enabled := (governed cs d after split).1 succeeded
        exact closed d.delegate (within d (split ▸ by simp)) (monotone d.delegate before enabled)

/-- Rounds enough leave work only after a round in which all of it was called in vain. -/
theorem Performed.last_round {r : Run σ} {report : Report} {plan : Plan σ} {e e' : Engine σ}
    {first later : List (HandlerCall σ)} {n : Nat}
    (h : Performed r report plan e e' first later n) (rounds : r.HasRounds) {x : Delegate σ}
    (member : x ∈ r.discovered) (failed : ∀ c ∈ r.calls, c.delegate = x → c.succeeded = false) :
    ∃ before c after, r.calls = before ++ c :: after ∧ c.delegate = x ∧
      ∀ c' ∈ c :: after, c'.succeeded = false := by
  have pending : x ∈ Engine.left r.queues (r.calls.map HandlerCall.toCall) :=
    Engine.mem_left.2 ⟨member, (h.isDone_eq_false_iff (fun _ inCalls => inCalls) member).2 failed⟩
  rw [h.calls, List.map_append] at pending
  rcases h.rounds.ends h.planned.homes h.ledger_first.1 with
    none | ⟨early, last, split, lost, called⟩ | full
  · rw [none] at pending
    cases pending
  · obtain ⟨xs, ys, isLater, rfl, rfl⟩ := List.map_eq_append_iff.1 split
    have inLast := called x pending
    rw [List.map_map] at inLast
    obtain ⟨c, inYs, isX⟩ := List.mem_map.1 inLast
    obtain ⟨left, right, isYs⟩ := List.append_of_mem inYs
    refine ⟨first ++ (xs ++ left), c, right, ?_, isX, fun c' inTail => ?_⟩
    · rw [h.calls, isLater, isYs, List.append_assoc, List.append_assoc]
    · have inYs' : c' ∈ ys := isYs ▸ List.mem_append_right left inTail
      exact lost c'.toCall (List.mem_map_of_mem inYs')
  · -- As many rounds with progress as there are delegates leave nothing.
    have some : 0 < (Engine.left r.queues (first.map HandlerCall.toCall ++
        later.map HandlerCall.toCall)).length := List.length_pos_of_mem pending
    have most : (Engine.left r.queues (first.map HandlerCall.toCall)).length ≤ r.discovered.length :=
      List.length_filter_le _ _
    have enough : r.discovered.length ≤ r.engine.settings.maxRounds.toNat := rounds
    omega

/-- **What succeeds is the least set that holds everything it enables.** -/
theorem Run.Returns.succeeded_isLeast {r : Run σ} {report : Report} (returns : r.Returns report)
    (rounds : r.HasRounds) {en : Delegate σ → Set (Delegate σ) → Prop}
    (monotone : ∀ x, Monotone (en x)) (governed : r.Governed en) :
    IsLeast (r.closedSets en) (finishedBy r.calls) := by
  obtain ⟨plan, e, e', first, later, n, h⟩ := returns.performed
  constructor
  · intro x member enabled
    by_contra unfinished
    have failed : ∀ c ∈ r.calls, c.delegate = x → c.succeeded = false := by
      intro c inCalls isX
      rw [Bool.eq_false_iff]
      exact fun succeeded => unfinished ⟨c, inCalls, isX, succeeded⟩
    obtain ⟨before, c, after, split, rfl, lost⟩ := h.last_round rounds member failed
    -- Nothing was finished after that call, so it would have succeeded.
    have same : finishedBy r.calls = finishedBy before := by
      rw [split, finishedBy_append, finishedBy_of_failed lost, Set.union_empty]
    rw [same] at enabled
    have succeeded := (governed before c after split).2 enabled
    rw [lost c List.mem_cons_self] at succeeded
    cases succeeded
  · intro S closed
    exact governed.finishedBy_subset monotone h.within closed (List.append_nil _).symm

/-! ## Two runs -/

def Run.markers (r : Run σ) : List MarkerType :=
  match r.engine.registry.markerTypes.1 with
  | .ok ts => ts
  | .error _ => []

/-- What a delegate is about, whichever run it belongs to: the marker type of its station and
its declaration. -/
abbrev Task := Option MarkerType × Declaration

def Run.task (r : Run σ) (x : Delegate σ) : Task :=
  (r.planned.2.1.stations[x.entry]?.map fun s => s.entry.marker, x.declaration)

/-- The runs are over the same declarations, in any order, and the same marker types. -/
structure SameWork (r : Run σ) (s : Run τ) : Prop where
  declarations : ∃ xs ys, r.scanner.Serves r.context.packages xs ∧
    s.scanner.Serves s.context.packages ys ∧ ∀ x, x ∈ xs ↔ x ∈ ys
  markers : ∀ t, t ∈ r.markers ↔ t ∈ s.markers
  context : r.context = s.context

theorem SameWork.symm {r : Run σ} {s : Run τ} (same : SameWork r s) : SameWork s r where
  declarations := by
    obtain ⟨xs, ys, rServes, sServes, members⟩ := same.declarations
    exact ⟨ys, xs, sServes, rServes, fun x => (members x).symm⟩
  markers t := (same.markers t).symm
  context := same.context.symm

/-- The tasks of a run are the chosen declarations of its marker types. -/
theorem Run.Returns.task_iff {r : Run σ} {report : Report} (returns : r.Returns report)
    {decls : List Declaration} (serves : r.scanner.Serves r.context.packages decls) {task : Task} :
    (∃ x ∈ r.discovered, r.task x = task) ↔
      ∃ t ∈ r.markers, ∃ y ∈ Discovery.chosen r.context t t.kinds decls, task = (some t, y) := by
  obtain ⟨plan, e, w, e', w', ok, -⟩ := returns.recorded
  have planned := Run.planned_spec ok
  have markers : r.markers = e.stations.map fun s => s.entry.marker := by
    rw [Run.markers, planned.markers]
  have stations : r.planned.2.1.stations = e.stations := by
    rw [ok]
  have queue_at : ∀ i : Nat, r.queues[i]? =
      Option.map (fun (s : Station σ) => s.entry.queue) e.stations[i]? := by
    intro i
    rw [← planned.queues, List.getElem?_map]
  constructor
  · rintro ⟨x, member, rfl⟩
    obtain ⟨q, found, inQ⟩ := planned.homes.queue_of_mem member
    rw [queue_at] at found
    obtain ⟨s, there, rfl⟩ := Option.map_eq_some_iff.1 found
    have inStations := List.mem_of_getElem? there
    refine ⟨s.entry.marker, ?_, x.declaration, ?_, ?_⟩
    · rw [markers]
      exact List.mem_map_of_mem inStations
    · rw [← planned.declarations decls serves s inStations]
      exact List.mem_map_of_mem inQ
    · rw [Run.task, stations, there]
      rfl
  · rintro ⟨t, isMarker, y, isChosen, rfl⟩
    rw [markers] at isMarker
    obtain ⟨s, inStations, rfl⟩ := List.mem_map.1 isMarker
    rw [← planned.declarations decls serves s inStations] at isChosen
    obtain ⟨x, inQueue, rfl⟩ := List.mem_map.1 isChosen
    obtain ⟨i, there⟩ := List.mem_iff_getElem?.1 inStations
    have found : r.queues[i]? = some s.entry.queue := by
      rw [queue_at, there]
      rfl
    refine ⟨x, Engine.mem_flatten found inQueue, ?_⟩
    rw [Run.task, stations, planned.homes.home i _ found x inQueue, there]
    rfl

theorem mem_chosen {ctx : Context} {t : MarkerType} {kinds : List ElementKind}
    {decls : List Declaration} {y : Declaration} :
    y ∈ Discovery.chosen ctx t kinds decls ↔
      ∃ kind ∈ kinds, y ∈ decls ∧ Discovery.isChosen ctx t kind y = true := by
  simp only [Discovery.chosen, List.mem_flatMap, List.mem_filter]

/-- Runs over the same work discover the same tasks. -/
theorem SameWork.task_iff {r : Run σ} {s : Run τ} (same : SameWork r s) {report report' : Report}
    (rReturns : r.Returns report) (sReturns : s.Returns report') (task : Task) :
    (∃ x ∈ r.discovered, r.task x = task) ↔ ∃ y ∈ s.discovered, s.task y = task := by
  obtain ⟨xs, ys, rServes, sServes, members⟩ := same.declarations
  rw [rReturns.task_iff rServes, sReturns.task_iff sServes]
  have chosen : ∀ t y, y ∈ Discovery.chosen r.context t t.kinds xs ↔
      y ∈ Discovery.chosen s.context t t.kinds ys := by
    intro t y
    rw [mem_chosen, mem_chosen, same.context]
    simp only [members]
  simp only [same.markers, chosen]

/-- What one run finishes, a run over the same work finishes too. -/
theorem SameWork.finished_of_finished {r : Run σ} {s : Run τ} (same : SameWork r s)
    {report report' : Report} (rReturns : r.Returns report) (sReturns : s.Returns report')
    (rRounds : r.HasRounds) (sRounds : s.HasRounds) {en : Task → Set Task → Prop}
    (monotone : ∀ task, Monotone (en task))
    (rGoverned : r.Governed fun x S => en (r.task x) (r.task '' S))
    (sGoverned : s.Governed fun y S => en (s.task y) (s.task '' S)) {x : Delegate σ}
    (finished : x ∈ finishedBy r.calls) {y : Delegate τ} (yFound : y ∈ s.discovered)
    (alike : r.task x = s.task y) : y ∈ finishedBy s.calls := by
  have rLeast := rReturns.succeeded_isLeast rRounds
    (fun x _ _ le => monotone (r.task x) (Set.image_mono le)) rGoverned
  have sLeast := sReturns.succeeded_isLeast sRounds
    (fun y _ _ le => monotone (s.task y) (Set.image_mono le)) sGoverned
  -- The delegates whose tasks the other run finishes form a closed set.
  let S : Set (Delegate σ) :=
    {x | x ∈ r.discovered ∧ ∀ y ∈ s.discovered, r.task x = s.task y → y ∈ finishedBy s.calls}
  have closed : S ∈ r.closedSets fun x S => en (r.task x) (r.task '' S) := by
    refine fun x xFound enabled => ⟨xFound, fun y yFound alike => ?_⟩
    refine sLeast.1 y yFound ?_
    have enabled : en (r.task x) (r.task '' S) := enabled
    show en (s.task y) (s.task '' finishedBy s.calls)
    rw [alike] at enabled
    refine monotone (s.task y) ?_ enabled
    rintro task ⟨x', ⟨xFound', finishes⟩, rfl⟩
    obtain ⟨y', yFound', alike'⟩ :=
      (same.task_iff rReturns sReturns (r.task x')).1 ⟨x', xFound', rfl⟩
    exact ⟨y', finishes y' yFound' alike'.symm, alike'⟩
  exact (rLeast.2 closed finished).2 y yFound alike

/-- **Retrying reaches the least fixed point, and its order does not matter**: runs over the
same work discover the same tasks and succeed on the same of them. -/
theorem retrying_reaches_least_fixed_point :
    (∀ {σ : Type} (r : Run σ) (report : Report) (en : Delegate σ → Set (Delegate σ) → Prop),
      r.Returns report → r.HasRounds → (∀ x, Monotone (en x)) → r.Governed en →
      IsLeast (r.closedSets en) (finishedBy r.calls)) ∧
    ∀ {σ τ : Type} (r : Run σ) (s : Run τ) (report report' : Report) (en : Task → Set Task → Prop),
      SameWork r s → r.Returns report → s.Returns report' → r.HasRounds → s.HasRounds →
      (∀ task, Monotone (en task)) → r.Governed (fun x S => en (r.task x) (r.task '' S)) →
      s.Governed (fun y S => en (s.task y) (s.task '' S)) →
      (∀ task, (∃ x ∈ r.discovered, r.task x = task) ↔ ∃ y ∈ s.discovered, s.task y = task) ∧
      ∀ x ∈ r.discovered, ∀ y ∈ s.discovered, r.task x = s.task y →
        (x ∈ finishedBy r.calls ↔ y ∈ finishedBy s.calls) := by
  refine ⟨fun r report en returns rounds monotone governed =>
      returns.succeeded_isLeast rounds monotone governed,
    fun r s report report' en same rReturns sReturns rRounds sRounds monotone rGoverned sGoverned =>
      ⟨same.task_iff rReturns sReturns, fun x xFound y yFound alike => ⟨fun finished => ?_,
        fun finished => ?_⟩⟩⟩
  · exact same.finished_of_finished rReturns sReturns rRounds sRounds monotone rGoverned sGoverned
      finished yFound alike
  · exact same.symm.finished_of_finished sReturns rReturns sRounds rRounds monotone sGoverned
      rGoverned finished xFound alike.symm

/-! ## The small runs -/

/-- A run whose calls pass a test of the delegate and the calls before is governed by it. -/
theorem Run.governed_of_test {r : Run σ} {en : Delegate σ → Set (Delegate σ) → Prop}
    {test : Delegate σ → List (HandlerCall σ) → Bool}
    (decides : ∀ x before, test x before = true ↔ en x (finishedBy before))
    (passed : ∀ i (inside : i < r.calls.length),
      (r.calls.get ⟨i, inside⟩).succeeded =
        test (r.calls.get ⟨i, inside⟩).delegate (r.calls.take i)) : r.Governed en := by
  intro before c after split
  have inside : before.length < r.calls.length := by
    rw [split, List.length_append, List.length_cons]
    omega
  have result := passed before.length inside
  simp only [split, List.get_eq_getElem, List.getElem_append_right (le_refl _), Nat.sub_self,
    List.getElem_cons_zero, List.take_left] at result
  rw [result, decides]

namespace Sample

def isBase (task : Task) : Bool :=
  match task.2.owner with
  | .str name => name == "base"
  | _ => false

/-- `base` can be made at once, everything else once it is made. -/
def enabled (task : Task) (S : Set Task) : Prop := isBase task = true ∨ ∃ t ∈ S, isBase t = true

theorem enabled_monotone (task : Task) : Monotone (enabled task) := by
  rintro S T le (here | ⟨t, member, base⟩)
  · exact .inl here
  · exact .inr ⟨t, le member, base⟩

/-- `enabled`, read off the calls before. -/
def test (r : Run Bool) (x : Delegate Bool) (before : List (HandlerCall Bool)) : Bool :=
  isBase (r.task x) || before.any fun c => c.succeeded && isBase (r.task c.delegate)

theorem test_iff (r : Run Bool) (x : Delegate Bool) (before : List (HandlerCall Bool)) :
    test r x before = true ↔ enabled (r.task x) (r.task '' finishedBy before) := by
  rw [test, enabled, Bool.or_eq_true, List.any_eq_true]
  refine or_congr_right ⟨?_, ?_⟩
  · rintro ⟨c, member, passed⟩
    obtain ⟨succeeded, base⟩ := Bool.and_eq_true_iff.1 passed
    exact ⟨r.task c.delegate, ⟨c.delegate, ⟨c, member, rfl, succeeded⟩, rfl⟩, base⟩
  · rintro ⟨_, ⟨_, ⟨c, member, rfl, succeeded⟩, rfl⟩, base⟩
    exact ⟨c, member, Bool.and_eq_true_iff.2 ⟨succeeded, base⟩⟩

theorem governed (asks : Bool) : (run asks).Governed fun x S =>
    enabled ((run asks).task x) ((run asks).task '' S) :=
  Run.governed_of_test (test_iff (run asks)) (by cases asks <;> decide +kernel)

end Sample

/-- One run tries the other type first and in vain, the other makes the base first; both end
with the least fixed point. -/
theorem Sample.fixed_point_either_way :
    IsLeast ((Sample.run false).closedSets fun x S =>
        enabled ((Sample.run false).task x) ((Sample.run false).task '' S))
      (finishedBy (Sample.run false).calls) ∧
    ∀ x ∈ (Sample.run false).discovered, ∀ y ∈ (Sample.run true).discovered,
      (Sample.run false).task x = (Sample.run true).task y →
      (x ∈ finishedBy (Sample.run false).calls ↔ y ∈ finishedBy (Sample.run true).calls) := by
  have waits : (Sample.run false).passes (fun _ => true) = true := by decide +kernel
  have asks : (Sample.run true).passes (fun _ => true) = true := by decide +kernel
  obtain ⟨report, returns, -⟩ := Run.returns_of_passes waits
  obtain ⟨report', returns', -⟩ := Run.returns_of_passes asks
  have rounds : (Sample.run false).HasRounds := by decide +kernel
  have rounds' : (Sample.run true).HasRounds := by decide +kernel
  have same : SameWork (Sample.run false) (Sample.run true) :=
    ⟨⟨_, _, Scanner.serves_fixed, Scanner.serves_fixed, fun _ => Iff.rfl⟩, fun _ => Iff.rfl, rfl⟩
  constructor
  · exact retrying_reaches_least_fixed_point.1 _ _ _ returns rounds
      (fun x _ _ le => enabled_monotone _ (Set.image_mono le)) (Sample.governed false)
  · exact (retrying_reaches_least_fixed_point.2 _ _ _ _ _ same returns returns' rounds rounds'
      enabled_monotone (Sample.governed false) (Sample.governed true)).2

end Marking
