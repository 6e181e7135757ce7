/-
# Marking.Proofs.Ordering.Placement -- what rules demand, and when it can be had

`Places markers rules s t` says that some rule takes effect that places the marker type with
serial number `s` before the one with `t`: both are registered, they are not the same, and the
rule stands on the one and names the other.  The edges of an ordering are just these placements
(`any_edgesOf_iff`).

Orderings are computed by position and marker types are told apart by serial number, so the
strict order of positions is carried over to serial numbers (`earliestFirst_ofRules`).  It has
every marker type once and against no placement (`ofRules_ok`), and it is refused exactly when
placements form a ring (`ofRules_fails_iff`).
-/
import Mathlib.Data.List.Nodup
import Mathlib.Data.List.Range
import Marking.Ordering
import Marking.Proofs.Precedence.Extensions

set_option autoImplicit false

namespace Marking

/-! ## Marker types by serial number -/

theorem MarkerType.beq_iff {a b : MarkerType} : (a == b) = true ↔ a.serial = b.serial :=
  beq_iff_eq (α := Nat)

namespace Ordering

def serials (ms : List MarkerType) : List Nat := ms.map MarkerType.serial

theorem contains_iff {ms : List MarkerType} {m : MarkerType} :
    ms.contains m = true ↔ m.serial ∈ serials ms := by
  rw [List.contains_iff_exists_mem_beq, serials, List.mem_map]
  constructor
  · rintro ⟨n, member, same⟩
    exact ⟨n, member, (MarkerType.beq_iff.1 same).symm⟩
  · rintro ⟨n, member, same⟩
    exact ⟨n, member, MarkerType.beq_iff.2 same.symm⟩

/-- Marker types with distinct serial numbers are told apart by them. -/
theorem eq_of_serial {ms : List MarkerType} (nodup : (serials ms).Nodup) {a b : MarkerType}
    (aMember : a ∈ ms) (bMember : b ∈ ms) (same : a.serial = b.serial) : a = b :=
  List.inj_on_of_nodup_map nodup aMember bMember same

def keepNew (kept : List MarkerType) (m : MarkerType) : List MarkerType :=
  if kept.contains m then kept else kept ++ [m]

theorem serials_keepNew_nodup {kept : List MarkerType} (nodup : (serials kept).Nodup)
    (m : MarkerType) : (serials (keepNew kept m)).Nodup := by
  rw [keepNew]
  split
  · exact nodup
  · next new =>
      rw [contains_iff] at new
      rw [serials, List.map_append]
      exact Precedence.nodup_snoc nodup new

theorem serials_distinct_nodup (ms : List MarkerType) : (serials (distinct ms)).Nodup := by
  have fold : ∀ kept : List MarkerType, (serials kept).Nodup →
      (serials (ms.foldl keepNew kept)).Nodup := by
    induction ms with
    | nil => exact fun kept nodup => nodup
    | cons m ms ih => exact fun kept nodup => ih _ (serials_keepNew_nodup nodup m)
  exact fold [] List.nodup_nil

/-- Nothing is left out when the serial numbers are distinct already. -/
theorem distinct_of_nodup {ms : List MarkerType} (nodup : (serials ms).Nodup) :
    distinct ms = ms := by
  have fold : ∀ kept : List MarkerType, (serials (kept ++ ms)).Nodup →
      ms.foldl keepNew kept = kept ++ ms := by
    clear nodup
    induction ms with
    | nil => exact fun kept _ => (List.append_nil kept).symm
    | cons m ms ih =>
        intro kept nodup
        have new : ¬ kept.contains m = true := by
          intro known
          rw [serials, List.map_append, List.nodup_append] at nodup
          exact nodup.2.2 _ (contains_iff.1 known) m.serial (by simp) rfl
        rw [List.foldl_cons, keepNew, if_neg new, ih _ (by rwa [List.append_assoc]),
          List.append_assoc]
        rfl
  exact fold [] nodup

/-! ## Placements -/

variable {markers : List MarkerType} {rules : List (MarkerType × List Rule)}

/-- A rule that takes effect places the first marker type before the second; both are given by
serial number. -/
def Places (markers : List MarkerType) (rules : List (MarkerType × List Rule)) (s t : Nat) : Prop :=
  s ∈ serials markers ∧ t ∈ serials markers ∧ s ≠ t ∧ ∃ owned ∈ rules, ∃ r ∈ owned.2,
    (r.side = .before ∧ owned.1.serial = s ∧ r.marker.serial = t) ∨
      (r.side = .after ∧ r.marker.serial = s ∧ owned.1.serial = t)

/-- The first marker type has to wait for the second, which is placed before it. -/
def Awaits (markers : List MarkerType) (rules : List (MarkerType × List Rule)) (t s : Nat) : Prop :=
  Places markers rules s t

theorem effect_edge_iff {owner first second : MarkerType} {r : Rule} :
    effect markers owner r = .edge first second ↔
      r.marker.serial ∈ serials markers ∧ r.marker.serial ≠ owner.serial ∧
        ((r.side = .before ∧ owner = first ∧ r.marker = second) ∨
          (r.side = .after ∧ r.marker = first ∧ owner = second)) := by
  rw [← contains_iff, ne_eq, ← MarkerType.beq_iff]
  unfold effect
  cases r.side <;> by_cases known : markers.contains r.marker = true <;>
    by_cases same : (r.marker == owner) = true <;> simp [known, same]

theorem mem_edgesOf {e : MarkerType × MarkerType} :
    e ∈ edgesOf markers rules ↔ ∃ owned ∈ rules, ∃ r ∈ owned.2,
      owned.1.serial ∈ serials markers ∧ effect markers owned.1 r = .edge e.1 e.2 := by
  simp only [edgesOf, standing, List.mem_filterMap, List.mem_flatMap, List.mem_filter, List.mem_map]
  constructor
  · rintro ⟨⟨owner, r⟩, ⟨owned, ⟨member, known⟩, r', inRules, same⟩, made⟩
    cases same
    refine ⟨owned, member, r, inRules, contains_iff.1 known, ?_⟩
    revert made
    cases effect markers owned.1 r with
    | edge first second =>
        rintro ⟨rfl⟩
        rfl
    | unregistered => exact fun absurd' => nomatch absurd'
    | idle => exact fun absurd' => nomatch absurd'
  · rintro ⟨owned, member, r, inRules, known, made⟩
    refine ⟨(owned.1, r), ⟨owned, ⟨member, contains_iff.2 known⟩, r, inRules, rfl⟩, ?_⟩
    simp only [made]

/-- The edges are the placements. -/
theorem any_edgesOf_iff {m n : MarkerType} :
    (edgesOf markers rules).any (fun e => e.1 == m && e.2 == n) = true ↔
      Places markers rules m.serial n.serial := by
  simp only [List.any_eq_true, Bool.and_eq_true, MarkerType.beq_iff]
  constructor
  · rintro ⟨⟨first, second⟩, member, sameFirst, sameSecond⟩
    obtain ⟨owned, inAll, r, inRules, known, made⟩ := mem_edgesOf.1 member
    obtain ⟨named, differ, side⟩ := effect_edge_iff.1 made
    rw [← sameFirst, ← sameSecond]
    rcases side with ⟨before, rfl, rfl⟩ | ⟨after, rfl, rfl⟩
    · exact ⟨known, named, differ.symm, owned, inAll, r, inRules, .inl ⟨before, rfl, rfl⟩⟩
    · exact ⟨named, known, differ, owned, inAll, r, inRules, .inr ⟨after, rfl, rfl⟩⟩
  · rintro ⟨first, second, differ, owned, inAll, r, inRules, side⟩
    rcases side with ⟨before, isFirst, isSecond⟩ | ⟨after, isFirst, isSecond⟩
    · refine ⟨(owned.1, r.marker), mem_edgesOf.2 ⟨owned, inAll, r, inRules, isFirst ▸ first,
        effect_edge_iff.2 ⟨isSecond ▸ second, ?_, .inl ⟨before, rfl, rfl⟩⟩⟩, isFirst, isSecond⟩
      rw [isFirst, isSecond]
      exact differ.symm
    · refine ⟨(r.marker, owned.1), mem_edgesOf.2 ⟨owned, inAll, r, inRules, isSecond ▸ second,
        effect_edge_iff.2 ⟨isFirst ▸ first, ?_, .inr ⟨after, rfl, rfl⟩⟩⟩, isFirst, isSecond⟩
      rw [isFirst, isSecond]
      exact differ

/-! ## Positions -/

def markerAt (ms : List MarkerType) (i : Nat) : MarkerType := ms.getD i default

theorem markerAt_eq {i : Nat} (inside : i < markers.length) : markerAt markers i = markers[i] := by
  simp [markerAt, inside]

theorem map_markerAt_range (ms : List MarkerType) :
    (List.range ms.length).map (markerAt ms) = ms :=
  map_getD_range ms default

theorem markersAt_eq_map {ps : List Nat} (inside : ∀ i ∈ ps, i < markers.length) :
    markersAt markers ps = ps.map (markerAt markers) :=
  filterMap_getElem?_eq_map markers default inside

theorem size_precedence (markers : List MarkerType) (edges : List (MarkerType × MarkerType)) :
    (precedence markers edges).size = markers.length :=
  Precedence.size_ofRelation _ _

/-- A position waits for another one exactly when a rule places the marker type there first. -/
theorem waits_iff_awaits {i j : Nat} (iInside : i < markers.length) (jInside : j < markers.length) :
    (precedence markers (edgesOf markers rules)).Waits i j ↔
      Awaits markers rules (markerAt markers i).serial (markerAt markers j).serial := by
  rw [Precedence.Waits, Awaits, precedence, Precedence.needsOf_ofRelation _ _ _ iInside, List.mem_filter,
    ← any_edgesOf_iff, markerAt_eq iInside, markerAt_eq jInside]
  simp [iInside, jInside]

theorem serial_markerAt_injective (nodup : (serials markers).Nodup) {i j : Nat}
    (iInside : i < markers.length) (jInside : j < markers.length)
    (same : (markerAt markers i).serial = (markerAt markers j).serial) : i = j := by
  rw [markerAt_eq iInside, markerAt_eq jInside] at same
  have both := eq_of_serial nodup (List.getElem_mem iInside) (List.getElem_mem jInside) same
  exact (List.Nodup.of_map MarkerType.serial nodup).getElem_inj_iff.1 both

/-! ## The order of marker types -/

variable (markers rules)

def emittedAt : List Nat := (precedence markers (edgesOf markers rules)).countdown.order

theorem emittedAt_lt {i : Nat} (member : i ∈ emittedAt markers rules) : i < markers.length :=
  size_precedence markers _ ▸ (Precedence.countdown_sound _).order_lt i member

variable {markers rules}

theorem inside_positions {i : Nat}
    (member : i ∈ (precedence markers (edgesOf markers rules)).positions) : i < markers.length :=
  size_precedence markers _ ▸ Precedence.mem_positions.1 member

theorem map_serial_positions (markers : List MarkerType) (rules : List (MarkerType × List Rule)) :
    (precedence markers (edgesOf markers rules)).positions.map
      (fun i => (markerAt markers i).serial) = serials markers := by
  rw [Precedence.positions, size_precedence]
  show (List.range markers.length).map (MarkerType.serial ∘ markerAt markers) = serials markers
  rw [← List.map_map, map_markerAt_range]
  rfl

/-- **The earliest marker type that no placement holds back comes next.** -/
theorem earliestFirst_ofRules (nodup : (serials markers).Nodup) :
    EarliestFirst (Awaits markers rules) (serials markers) []
      ((emittedAt markers rules).map fun i => (markerAt markers i).serial) := by
  have byPosition := Precedence.countdown_earliestFirst (precedence markers (edgesOf markers rules))
  have emitted := byPosition.map (fun i => (markerAt markers i).serial)
    (fun i iMember j jMember => serial_markerAt_injective nodup (inside_positions iMember)
      (inside_positions jMember))
    (fun i iMember j jMember => waits_iff_awaits (inside_positions iMember)
      (inside_positions jMember))
    (fun _ member => nomatch member)
  rwa [map_serial_positions] at emitted

variable (markers rules)

def emittedSerials : List Nat :=
  (emittedAt markers rules).map fun i => (markerAt markers i).serial

variable {markers rules}

/-- What was emitted meets the placements, and nothing else can be emitted. -/
theorem emitted_explains (rules : List (MarkerType × List Rule)) (nodup : (serials markers).Nodup) :
    Explains (Awaits markers rules) (serials markers) (emittedSerials markers rules) [] ∧
      ∀ t ∈ serials markers, t ∈ emittedSerials markers rules ∨
        ¬ Ready (Awaits markers rules) (serials markers)
          (emittedSerials markers rules) t :=
  (earliestFirst_ofRules nodup).explains explains_nil

/-- The positions of a complete order are all positions. -/
theorem emittedAt_perm {ps : List Nat}
    (found : (precedence markers (edgesOf markers rules)).leastOrder? = some ps) :
    ps = emittedAt markers rules ∧ ps.Perm (List.range markers.length) := by
  obtain ⟨rfl, all⟩ := Precedence.leastOrder?_eq_some_iff.1 found
  refine ⟨rfl, (List.perm_ext_iff_of_nodup (Precedence.countdown_sound _).order_nodup
    List.nodup_range).2 fun i => ?_⟩
  rw [List.mem_range]
  constructor
  · exact emittedAt_lt markers rules
  · intro inside
    refine all i (Precedence.mem_positions.2 ?_)
    rwa [size_precedence]

/-! ## Orderings -/

/-- What a list of marker types, its rules and an order of it have to do with each other. -/
structure IsOrder (markers : List MarkerType) (rules : List (MarkerType × List Rule))
    (order : List MarkerType) : Prop where
  /-- Every marker type is in the order, once. -/
  perm : order.Perm markers
  /-- No marker type in the order is placed before an earlier one. -/
  placed : order.Pairwise fun a b => ¬ Places markers rules b.serial a.serial

variable {ms : List MarkerType}

theorem ofRules_eq (ms : List MarkerType) (rules : List (MarkerType × List Rule)) :
    (ofRules ms rules).1 =
      match (precedence (distinct ms) (edgesOf (distinct ms) rules)).leastOrder? with
      | some ps => .ok ⟨distinct ms, edgesOf (distinct ms) rules, markersAt (distinct ms) ps⟩
      | none => .error (.ruleCycle ((markersAt (distinct ms)
          (precedence (distinct ms) (edgesOf (distinct ms) rules)).stuck).map MarkerType.name)) :=
  rfl

/-- **An ordering has every marker type once, and against no placement.** -/
theorem ofRules_ok {o : Ordering} (made : (ofRules ms rules).1 = .ok o) :
    IsOrder (distinct ms) rules o.order := by
  have nodup := serials_distinct_nodup ms
  rw [ofRules_eq] at made
  split at made
  · next ps found =>
      cases made
      obtain ⟨rfl, perm⟩ := emittedAt_perm found
      have order : markersAt (distinct ms) (emittedAt (distinct ms) rules) =
          (emittedAt (distinct ms) rules).map (markerAt (distinct ms)) :=
        markersAt_eq_map fun i member => emittedAt_lt _ _ member
      refine ⟨?_, ?_⟩
      · have mapped := perm.map (markerAt (distinct ms))
        rwa [map_markerAt_range, ← order] at mapped
      · have pairwise := (emitted_explains rules nodup).1.pairwise
        rw [emittedSerials, List.pairwise_map] at pairwise
        show (markersAt (distinct ms) (emittedAt (distinct ms) rules)).Pairwise _
        rwa [order, List.pairwise_map]
  · cases made

/-- The only refusal is that the rules are cyclic. -/
theorem ofRules_error {f : Fault} (failed : (ofRules ms rules).1 = .error f) :
    ∃ names, f = .ruleCycle names := by
  rw [ofRules_eq] at failed
  split at failed
  · cases failed
  · cases failed
    exact ⟨_, rfl⟩

/-- The placements form a ring. -/
def Cyclic (markers : List MarkerType) (rules : List (MarkerType × List Rule)) : Prop :=
  ∃ s, Relation.TransGen (Places markers rules) s s

/-- A ring of placements is a ring of marker types that wait for each other, backwards. -/
theorem cyclic_iff_waits :
    Cyclic markers rules ↔ ∃ s, Relation.TransGen (Awaits markers rules) s s := by
  refine exists_congr fun s => ?_
  rw [← Relation.transGen_swap]
  rfl

/-- Positions wait in a ring exactly when marker types do. -/
theorem exists_ring_iff (nodup : (serials markers).Nodup) :
    (∃ s, Relation.TransGen (Awaits markers rules) s s) ↔
      ∃ i, Relation.TransGen (precedence markers (edgesOf markers rules)).Waits i i := by
  refine exists_ring_map_iff (fun i => (markerAt markers i).serial)
    (fun i iMember j jMember => serial_markerAt_injective nodup (inside_positions iMember)
      (inside_positions jMember))
    (fun i iMember j jMember => waits_iff_awaits (inside_positions iMember)
      (inside_positions jMember))
    (fun _ _ => Precedence.Waits.positions) ?_
  rw [map_serial_positions]
  exact fun _ _ awaits => ⟨awaits.2.1, awaits.1⟩

/-- **An ordering is refused exactly when the placements form a ring.** -/
theorem ofRules_fails_iff :
    (∃ f, (ofRules ms rules).1 = .error f) ↔ Cyclic (distinct ms) rules := by
  rw [ofRules_eq, cyclic_iff_waits, exists_ring_iff (serials_distinct_nodup ms),
    ← Precedence.leastOrder?_eq_none_iff]
  split
  · next found => simp [found]
  · next found => simp [found]

end Ordering

end Marking
