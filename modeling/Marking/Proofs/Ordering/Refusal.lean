/-
# Marking.Proofs.Ordering.Refusal -- which marker types a refusal names

Rules whose placements form a ring are refused, and the refusal names marker types.  They are the
ones that no order could be found for: those on a ring, and also those that have to come after
one, directly or over others (`refusal_names`).  The names are those of a ring alone only when
nothing off the rings has to come after a ring (`heldUp_iff_onRing`).
-/
import Marking.Proofs.Ordering.Extension

set_option autoImplicit false

namespace Marking.Ordering

variable {ms markers : List MarkerType} {rules : List (MarkerType × List Rule)} {s t : Nat}

/-! ## Rings, and what comes after them -/

/-- The marker type has to come before itself, over others. -/
def OnRing (ms : List MarkerType) (rules : List (MarkerType × List Rule)) (s : Nat) : Prop :=
  Relation.TransGen (Places ms rules) s s

/-- The marker type is on a ring or has to come after one. -/
def HeldUp (ms : List MarkerType) (rules : List (MarkerType × List Rule)) (s : Nat) : Prop :=
  ∃ t, OnRing ms rules t ∧ Reaches (Places ms rules) t s

theorem OnRing.heldUp (ring : OnRing ms rules s) : HeldUp ms rules s := ⟨s, ring, .refl⟩

theorem OnRing.registered (ring : OnRing ms rules s) : s ∈ serials ms := by
  obtain ⟨t, placed, -⟩ := Relation.TransGen.head'_iff.1 ring
  exact placed.1

/-- Only rings are held up exactly when every placement from a ring leads to a ring. -/
theorem heldUp_iff_onRing :
    (∀ s, HeldUp ms rules s → OnRing ms rules s) ↔
      ∀ s t, OnRing ms rules s → Places ms rules s t → OnRing ms rules t := by
  constructor
  · intro only s t ring placed
    exact only t ⟨s, ring, .single placed⟩
  · rintro closed s ⟨t, ring, walk⟩
    exact walk.mem_of_closed (OnRing ms rules) closed ring

theorem heldUp_iff_waits :
    HeldUp ms rules s ↔
      ∃ t, Reaches (Awaits ms rules) s t ∧ Relation.TransGen (Awaits ms rules) t t := by
  refine exists_congr fun t => ?_
  rw [and_comm, Reaches, Reaches, ← Relation.reflTransGen_swap, OnRing, ← Relation.transGen_swap]
  rfl

/-! ## What is left over -/

def leftOver (markers : List MarkerType) (rules : List (MarkerType × List Rule)) :
    List MarkerType :=
  markersAt markers (precedence markers (edgesOf markers rules)).stuck

theorem leftOver_eq_map (markers : List MarkerType) (rules : List (MarkerType × List Rule)) :
    leftOver markers rules =
      (precedence markers (edgesOf markers rules)).stuck.map (markerAt markers) :=
  markersAt_eq_map fun _ member => inside_positions (Precedence.mem_stuck.1 member).1

/-- They stand in the order of registration. -/
theorem leftOver_sublist (markers : List MarkerType) (rules : List (MarkerType × List Rule)) :
    (leftOver markers rules).Sublist markers := by
  have within : (precedence markers (edgesOf markers rules)).stuck.Sublist
      (precedence markers (edgesOf markers rules)).positions := List.filter_sublist
  have mapped := within.map (markerAt markers)
  rwa [← leftOver_eq_map, Precedence.positions, size_precedence, map_markerAt_range] at mapped

theorem markerAt_mem_leftOver (nodup : (serials markers).Nodup) {i : Nat}
    (inside : i < markers.length) :
    markerAt markers i ∈ leftOver markers rules ↔
      (markerAt markers i).serial ∉ emittedSerials markers rules := by
  have member : i ∈ (precedence markers (edgesOf markers rules)).positions :=
    Precedence.mem_positions.2 ((size_precedence markers _).symm ▸ inside)
  rw [leftOver_eq_map, List.mem_map, emittedSerials, List.mem_map]
  constructor
  · rintro ⟨j, stuck, same⟩ ⟨k, emitted, sameSerial⟩
    have kInside := emittedAt_lt markers rules emitted
    obtain ⟨jMember, left⟩ := Precedence.mem_stuck.1 stuck
    have isSame := serial_markerAt_injective nodup kInside (inside_positions jMember)
      (sameSerial.trans (congrArg MarkerType.serial same.symm))
    exact left (isSame ▸ emitted)
  · intro missing
    exact ⟨i, Precedence.mem_stuck.2 ⟨member, fun emitted => missing ⟨i, emitted, rfl⟩⟩, rfl⟩

/-- **What is left over is what is held up.** -/
theorem mem_leftOver (nodup : (serials markers).Nodup) {m : MarkerType} (member : m ∈ markers) :
    m ∈ leftOver markers rules ↔ HeldUp markers rules m.serial := by
  obtain ⟨i, inside, rfl⟩ := List.getElem_of_mem member
  obtain ⟨explained, idle⟩ := emitted_explains rules nodup
  rw [← markerAt_eq inside, markerAt_mem_leftOver nodup inside, heldUp_iff_waits,
    explained.left_iff idle (fun _ _ awaits => awaits.1)]
  rw [markerAt_eq inside]
  exact List.mem_map_of_mem (List.getElem_mem inside)

theorem heldUp_distinct : HeldUp (distinct ms) rules s ↔ HeldUp ms rules s := by
  simp only [HeldUp, OnRing, places_distinct]

theorem ofRules_error_eq {f : Fault} (failed : (ofRules ms rules).1 = .error f) :
    f = .ruleCycle ((leftOver (distinct ms) rules).map MarkerType.name) := by
  rw [ofRules_eq] at failed
  split at failed
  · cases failed
  · exact (Except.error.inj failed).symm

/-- **A refusal names what is held up**, in the order of registration: the marker types on a ring
of placements, of which there are some, and those that have to come after one.  These are only the
ones on a ring when no placement leads from a ring to something off the rings, and not
otherwise. -/
theorem refusal_names {f : Fault} (failed : (ofRules ms rules).1 = .error f) :
    ∃ held : List MarkerType, held.Sublist (distinct ms) ∧ f = .ruleCycle (held.map MarkerType.name) ∧
      (∀ m ∈ distinct ms, m ∈ held ↔ HeldUp ms rules m.serial) ∧
      (∃ m ∈ held, OnRing ms rules m.serial) ∧
      ((∀ m ∈ held, OnRing ms rules m.serial) ↔
        ∀ s t, OnRing ms rules s → Places ms rules s t → OnRing ms rules t) := by
  have mem_held : ∀ m ∈ distinct ms,
      m ∈ leftOver (distinct ms) rules ↔ HeldUp ms rules m.serial := by
    intro m member
    rw [mem_leftOver (serials_distinct_nodup ms) member, heldUp_distinct]
  -- Whoever is held up is registered, so some marker type has that serial number.
  have named : ∀ s ∈ serials ms, HeldUp ms rules s →
      ∃ m ∈ leftOver (distinct ms) rules, m.serial = s := by
    intro s known held
    obtain ⟨m, member, rfl⟩ := List.mem_map.1 (mem_serials_distinct.2 known)
    exact ⟨m, (mem_held m member).2 held, rfl⟩
  refine ⟨leftOver (distinct ms) rules, leftOver_sublist _ _, ofRules_error_eq failed, mem_held,
    ?_, ?_⟩
  · obtain ⟨s, ring⟩ := ofRules_refused_iff.1 ⟨f, failed⟩
    have onRing : OnRing ms rules s := ring
    obtain ⟨m, member, rfl⟩ := named s onRing.registered onRing.heldUp
    exact ⟨m, member, onRing⟩
  · rw [← heldUp_iff_onRing]
    constructor
    · intro only s held
      have known : s ∈ serials ms := by
        obtain ⟨t, ring, walk⟩ := held
        exact walk.mem_of_closed (· ∈ serials ms) (fun _ _ _ placed => placed.2.1) ring.registered
      obtain ⟨m, member, rfl⟩ := named s known held
      exact only m member
    · intro only m member
      exact only _ ((mem_held m ((leftOver_sublist _ _).subset member)).1 member)

/-! ## A marker type off the ring that is named -/

namespace Sample

/-- Two marker types that have to come before each other. -/
def ring : List (MarkerType × List Rule) := [(early, [⟨.after, middle⟩]), (middle, [⟨.after, early⟩])]

/-- The same, and a third one that has to come after them. -/
def followed : List (MarkerType × List Rule) := ring ++ [(late, [⟨.after, early⟩])]

/-- The refusal is worked out from what the countdown leaves over. -/
theorem refused {rules : List (MarkerType × List Rule)} (ps : List Nat)
    (none : (precedence [early, middle, late] (edgesOf [early, middle, late] rules)).leastOrder? =
      none)
    (stuck : (precedence [early, middle, late] (edgesOf [early, middle, late] rules)).stuck = ps) :
    (ofRules [early, middle, late] rules).1 =
      .error (.ruleCycle ((markersAt [early, middle, late] ps).map MarkerType.name)) := by
  have distincts : distinct [early, middle, late] = [early, middle, late] := rfl
  rw [ofRules_eq, distincts, none, stuck]

theorem ring_refused :
    (ofRules [early, middle, late] ring).1 = .error (.ruleCycle ["Early", "Middle"]) :=
  refused [0, 1] (by decide +kernel) (by decide +kernel)

theorem ring_named :
    ∃ held : List MarkerType, held.Sublist (distinct [early, middle, late]) ∧
      Fault.ruleCycle ["Early", "Middle"] = .ruleCycle (held.map MarkerType.name) ∧
      (∀ m ∈ distinct [early, middle, late],
        m ∈ held ↔ HeldUp [early, middle, late] ring m.serial) ∧
      (∃ m ∈ held, OnRing [early, middle, late] ring m.serial) ∧
      ((∀ m ∈ held, OnRing [early, middle, late] ring m.serial) ↔
        ∀ s t, OnRing [early, middle, late] ring s → Places [early, middle, late] ring s t →
          OnRing [early, middle, late] ring t) :=
  refusal_names ring_refused

/-- **What only comes after a ring is named with it.** -/
theorem follower_named :
    (ofRules [early, middle, late] followed).1 = .error (.ruleCycle ["Early", "Middle", "Late"]) ∧
      ¬ OnRing [early, middle, late] followed late.serial := by
  refine ⟨refused [0, 1, 2] (by decide +kernel) (by decide +kernel), fun onRing => ?_⟩
  obtain ⟨t, placed, -⟩ := Relation.TransGen.head'_iff.1 onRing
  -- No rule places it before anything.
  have number : early.serial = 2 ∧ middle.serial = 3 ∧ late.serial = 4 := ⟨rfl, rfl, rfl⟩
  simp [Places, followed, ring, number] at placed

end Sample

end Marking.Ordering
