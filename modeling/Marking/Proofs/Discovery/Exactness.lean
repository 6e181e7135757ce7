/-
# Marking.Proofs.Discovery.Exactness -- what discovery finds, place by place

A fixed list serves declarations by their places, and one declaration may stand at several.
Discovery takes the places kind by kind (`positions`): those whose declarations are of the kind,
carry the marker, lie in the scope, and are for tests only when the run is.  No kind is looked
through twice, so no place is taken twice, whatever the marker type declares.

For each place the handler is asked once, and its reply makes the unit (`Finds`).  The handler may
put the work under other keys before it replies; the last of them counts (`Control.key_attempt`).
-/
import Mathlib.Data.List.FinRange
import Marking.Proofs.Discovery.Conversation
import Marking.Proofs.Marker.Targets

set_option autoImplicit false

namespace Marking

variable {σ : Type}

/-! ## Keys -/

/-- The control after attempts to put the work under the values, one after the other.  A value
that stands for no key changes nothing. -/
def Control.attempt (c : Control) (targets : List Value) : Control :=
  targets.foldl (fun c v => (c.masquerade v).toOption.getD c) c

theorem Control.attempt_snoc (c : Control) (targets : List Value) (v : Value) :
    c.attempt (targets ++ [v]) =
      ((c.attempt targets).masquerade v).toOption.getD (c.attempt targets) := by
  rw [attempt, List.foldl_append]
  rfl

/-- The key of the last value that stands for one is the key of the work. -/
theorem Control.key_attempt (c : Control) (targets : List Value) :
    (c.attempt targets).key =
      ((targets.filterMap fun v => (UnitKey.ofValue v).toOption).getLast?).getD c.key := by
  induction targets using List.reverseRecOn with
  | nil => rfl
  | append_singleton targets v ih =>
      rw [attempt_snoc, masquerade, List.filterMap_append]
      cases key : UnitKey.ofValue v with
      | error f =>
          have none : List.filterMap (fun v => (UnitKey.ofValue v).toOption) [v] = [] := by
            rw [List.filterMap_cons, key]
            rfl
          rw [none, List.append_nil]
          exact ih
      | ok k =>
          have last : List.filterMap (fun v => (UnitKey.ofValue v).toOption) [v] = [k] := by
            rw [List.filterMap_cons, key]
            rfl
          rw [last, List.getLast?_concat]
          rfl

namespace Discovery

/-! ## Places -/

variable {ctx : Context} {t : MarkerType} {kinds : List ElementKind} {decls : List Declaration}

/-- The places in the list whose declarations become delegates, kind by kind. -/
def positions (ctx : Context) (t : MarkerType) (kinds : List ElementKind)
    (decls : List Declaration) : List (Fin decls.length) :=
  kinds.flatMap fun kind =>
    (List.finRange decls.length).filter fun i => isChosen ctx t kind (decls.get i)

theorem map_get_positions (ctx : Context) (t : MarkerType) (kinds : List ElementKind)
    (decls : List Declaration) :
    (positions ctx t kinds decls).map decls.get = chosen ctx t kinds decls := by
  rw [positions, chosen, List.map_flatMap]
  refine congrArg kinds.flatMap (funext fun kind => ?_)
  have whole := congrArg (List.filter (isChosen ctx t kind)) (List.map_get_finRange decls)
  rwa [List.filter_map] at whole

theorem isChosen_iff {kind : ElementKind} {x : Declaration} :
    isChosen ctx t kind x = true ↔ x.kind = kind ∧ (∃ m ∈ x.markers, m.isA t = true) ∧
      x.isInScope ctx.packages = .ok true ∧
      ((∃ b, x.isTestOnly = .ok b) ∧ (x.isTestOnly = .ok false ∨ ctx.testMode = true)) := by
  have marked : x.hasMarker t = true ↔ ∃ m ∈ x.markers, m.isA t = true := by
    rw [Declaration.hasMarker, Declaration.marker?, List.find?_isSome]
  have inside : isIn ctx.packages x = true ↔ x.isInScope ctx.packages = .ok true := by
    rw [isIn]
    cases x.isInScope ctx.packages <;> simp
  have admitted : isAdmitted ctx x = true ↔
      (∃ b, x.isTestOnly = .ok b) ∧ (x.isTestOnly = .ok false ∨ ctx.testMode = true) := by
    rw [isAdmitted]
    cases x.isTestOnly <;> simp
  simp only [isChosen, isSelected, isTaken, Bool.and_eq_true, decide_eq_true_eq, marked, inside,
    admitted]
  constructor
  · rintro ⟨⟨⟨kind, marked⟩, inside⟩, -, admitted⟩
    exact ⟨kind, marked, inside, admitted⟩
  · rintro ⟨kind, marked, inside, admitted⟩
    exact ⟨⟨⟨kind, marked⟩, inside⟩, marked, admitted⟩

theorem mem_positions (owners : ∀ x ∈ decls, x.owner.IsOwner) (i : Fin decls.length) :
    i ∈ positions ctx t kinds decls ↔
      (decls.get i).kind ∈ kinds ∧ (∃ m ∈ (decls.get i).markers, m.isA t = true) ∧
        (decls.get i).isInScope ctx.packages = .ok true ∧
        ((decls.get i).isTestOnly = .ok false ∨ ctx.testMode = true) := by
  have told := Declaration.isTestOnly_ok (owners _ (List.get_mem decls i))
  simp only [positions, List.mem_flatMap, List.mem_filter, List.mem_finRange, true_and,
    isChosen_iff, told]
  constructor
  · rintro ⟨kind, member, rfl, rest⟩
    exact ⟨member, rest⟩
  · rintro ⟨member, rest⟩
    exact ⟨_, member, rfl, rest⟩

/-- The places come in the order of the kinds, and for one kind in the order of the list. -/
theorem positions_ordered (distinct : kinds.Nodup) :
    (positions ctx t kinds decls).Pairwise fun i j =>
      kinds.idxOf (decls.get i).kind < kinds.idxOf (decls.get j).kind ∨
        (decls.get i).kind = (decls.get j).kind ∧ i < j := by
  have kindOf : ∀ {kind : ElementKind} {i : Fin decls.length},
      (i ∈ (List.finRange decls.length).filter fun i => isChosen ctx t kind (decls.get i)) →
        (decls.get i).kind = kind :=
    fun member => (isChosen_iff.1 (List.mem_filter.1 member).2).1
  rw [positions, List.pairwise_flatMap]
  constructor
  · intro kind _
    have rising := (List.pairwise_lt_finRange decls.length).filter fun i =>
      isChosen ctx t kind (decls.get i)
    refine rising.imp_of_mem fun {i j} iMember jMember less => ?_
    exact Or.inr ⟨(kindOf iMember).trans (kindOf jMember).symm, less⟩
  · -- Without repetitions the index of a kind is its place in the list.
    rw [List.pairwise_iff_getElem]
    intro a b aBound bBound less i iMember j jMember
    rw [kindOf iMember, kindOf jMember, distinct.idxOf_getElem, distinct.idxOf_getElem]
    exact Or.inl less

theorem positions_nodup (distinct : kinds.Nodup) : (positions ctx t kinds decls).Nodup := by
  refine (positions_ordered distinct).imp fun {i j} before same => ?_
  subst same
  rcases before with less | ⟨-, less⟩
  · exact absurd less (Nat.lt_irrefl _)
  · exact absurd less (lt_irrefl i)

/-! ## What is found -/

/-- The places at which discovery at a station looks. -/
def places (d : Discovery) (s : Station σ) (decls : List Declaration) : List (Fin decls.length) :=
  positions d.context s.entry.marker s.entry.marker.kinds decls

/-- What discovery at a station finds in a fixed list by asking the questions. -/
structure Finds (d : Discovery) (position : Nat) (s : Station σ) (w : World σ)
    (decls : List Declaration) (qs : List (Inquiry σ)) : Prop where
  /-- It looks at the places of the declarations that are of a kind of the marker type, carry a
  marker of the type, lie in the scope, and are not for tests only, unless the run is. -/
  taken : ∀ i, i ∈ d.places s decls ↔
    (decls.get i).kind ∈ s.entry.marker.kinds ∧
      (∃ m ∈ (decls.get i).markers, m.isA s.entry.marker = true) ∧
      (decls.get i).isInScope d.context.packages = .ok true ∧
      ((decls.get i).isTestOnly = .ok false ∨ d.context.testMode = true)
  /-- It looks at none of them twice, -/
  once : (d.places s decls).Nodup
  /-- and goes by the order of the kinds first and by that of the list then. -/
  ordered : (d.places s decls).Pairwise fun i j =>
    s.entry.marker.kinds.idxOf (decls.get i).kind < s.entry.marker.kinds.idxOf (decls.get j).kind ∨
      (decls.get i).kind = (decls.get j).kind ∧ i < j
  /-- The handler is asked the questions, and nothing else happens to the world. -/
  asked : Converses d.context w qs (d.discover position s w).2.2.2
  /-- A failed check is the last one, and ends discovery. -/
  stopped : ∀ q ∈ qs, ∀ f, q.needs d.context = .error f →
    qs.getLast? = some q ∧ (d.discover position s w).1 = .error (q.delegate.checkFault f)
  /-- If no check fails, there is one question for each place, about a new delegate, -/
  fresh : (∀ q ∈ qs, q.Succeeds d.context) →
    List.Forall₂ (fun i q => q.delegate.IsFresh position s.handler s.entry.marker (decls.get i))
      (d.places s decls) qs
  /-- and one unit for each question. -/
  returned : (∀ q ∈ qs, q.Succeeds d.context) →
    (d.discover position s w).1 = .ok (qs.map fun q => (q.settled d.context).unit)
  /-- Its only item is the delegate as the reply settled it; its key is the one that the handler
  put the work under, and its needs are those that the reply names. -/
  unit : ∀ q ∈ qs, ∀ ks, q.needs d.context = .ok ks →
    (q.settled d.context).unit =
      { key := (q.reply d.context).2.1.key, items := [q.settled d.context], needs := ks }
  /-- Where the handler put it under the keys of values, that is the last one of these, and the
  key of the owner if there is none. -/
  key : ∀ q ∈ qs, ∀ targets : List Value,
    (q.reply d.context).2.1 = q.delegate.control.attempt targets →
      (q.settled d.context).unitKey =
        ((targets.filterMap fun v => (UnitKey.ofValue v).toOption).getLast?).getD q.delegate.key
  /-- The queue is extended by the delegates of the units, in the same order. -/
  queued : (d.discover position s w).2.2.1.entry.queue =
    s.entry.queue ++ qs.map fun q => q.settled d.context
  /-- They are numbered on from those made before. -/
  numbered : (∀ q ∈ qs, q.Succeeds d.context) →
    (qs.map fun q => q.delegate.serial) = List.range' d.made qs.length

theorem unit_injective : Function.Injective (Delegate.unit (σ := σ)) := by
  intro x y same
  exact List.singleton_inj.1 (congrArg WorkUnit.items same)

/-- Once the targets of the marker type are known, the questions find what there is. -/
theorem exists_finds (d : Discovery) (position : Nat) (s : Station σ) (w : World σ)
    (fixed : d.scanner = .fixed decls) (findable : ∀ x ∈ decls, x.IsFindable d.context.packages)
    {targets : Targets} (asked : (Targets.ofType s.entry.marker).1 = .ok targets) :
    ∃ qs, Finds d position s w decls qs := by
  have distinct := s.entry.marker.kinds_nodup
  obtain ⟨qs, talk⟩ := discover_talks d position s w fixed findable asked
  rw [← MarkerType.kinds_eq asked, ← map_get_positions, ← places] at talk
  refine ⟨qs,
    { taken := mem_positions fun x member => (findable x member).owner
      once := positions_nodup distinct
      ordered := positions_ordered distinct
      asked := talk.converses
      stopped := fun q member f failed => talk.concludes.stopped member failed
      fresh := fun succeed => List.forall₂_map_left_iff.1 (talk.concludes.returned succeed).1
      returned := fun succeed => (talk.concludes.returned succeed).2
      unit := fun q _ ks named => Inquiry.unit_settled named
      key := fun q member targets attempted => ?_
      queued := ?_
      numbered := fun succeed => ?_ }⟩
  · obtain ⟨x, fresh⟩ := talk.concludes.isFresh member
    rw [Delegate.unitKey, Inquiry.settled, attempted, Control.key_attempt, fresh.control]
    rfl
  · rw [talk.station]
    exact Entry.queue_addAll _ _
  · have returned := (talk.concludes.returned succeed).2
    generalize discovered : d.discover position s w = outcome at returned
    obtain ⟨units, d', s', w'⟩ := outcome
    dsimp only at returned
    subst returned
    obtain ⟨ds, same, enlists, -⟩ := discover_spec discovered
    -- The units determine their delegates, so these are the ones that were counted.
    have settled : qs.map (fun q => q.settled d.context) = ds := by
      refine unit_injective.list_map ?_
      rw [List.map_map]
      exact same
    have serials := enlists.serials
    rw [← settled, List.map_map, List.length_map] at serials
    exact serials

end Discovery

namespace Sample

def thrice : MarkerType :=
  .derive .root 4 "Thrice" (some "sample") (some (.list [.kind .type, .str "type", .str "TYPE"]))

def twofold (name : String) : Declaration :=
  { kind := .type, owner := .str name, markers := [.mk thrice [], .mk thrice []] }

def repeating : Discovery :=
  { scanner := .fixed [twofold "top", declaration "side", twofold "top"], context := {} }

def thriceStation : Station Bool := { handler := handler true, entry := { marker := thrice } }

end Sample

end Marking
