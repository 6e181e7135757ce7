/-
# Marking.Discovery -- from declarations to delegates and units

For every kind that a marker applies to, the scanner is asked for declarations, and
each of them becomes one delegate, queued on the entry of the marker, and one unit
that holds it.  Declarations for tests are left out unless the run takes them.

Structural faults are recorded and end nothing: unknown targets, declarations that
cannot be made, and declarations that do not carry the marker.  Unknown targets that
cannot be written are not recorded; asking for the targets fails, and discovery with it.
-/
import Marking.Delegate
import Marking.Registry
import Marking.Scanner

set_option autoImplicit false

namespace Marking

/-- An entry with the handler and the rules of its marker. -/
structure Station (σ : Type) where
  handler : Handler σ
  rules : List Rule := []
  entry : Entry (Delegate σ)

def Station.ofRegistration {σ : Type} (r : Registry.Registration σ) : Station σ :=
  ⟨r.handler, r.rules, { marker := r.marker }⟩

/-- What discovery carries along. -/
structure Discovery where
  scanner : Scanner
  context : Context
  structural : List StructuralFault := []
  /-- The number of delegates made so far. -/
  made : Nat := 0

namespace Discovery

variable {σ : Type}

def source : String := "core.discovery"

abbrev Step (σ α : Type) := Except Fault α × Discovery × Station σ × World σ

def record (d : Discovery) (f : StructuralFault) (w : World σ) : Discovery × World σ :=
  ({ d with structural := d.structural ++ [f] },
    w.note [.warning source ("Structural error: " ++ f.text)])

def noteKey (d : Delegate σ) (w : World σ) : World σ :=
  if d.control.isMasquerading then
    w.note [.debug source (d.text ++ " masquerades as " ++ d.unitKey.name)]
  else w

/-- Makes the delegate and the unit of a declaration that takes part. -/
def enlist (d : Discovery) (position : Nat) (s : Station σ) (x : Declaration) (m : Marker)
    (w : World σ) : Step σ (WorkUnit (Delegate σ)) :=
  match x.ownerKey with
  | .error f => (.error f, d, s, w)
  | .ok key =>
    match w.addType x.owner with
    | (.error f, w) => (.error f, d, s, w)
    | (.ok (), w) =>
      let delegate : Delegate σ :=
        { serial := d.made, entry := position, markerName := s.entry.name, handler := s.handler
          declaration := x, marker := m, key, control := .ofKey key }
      let d := { d with made := d.made + 1 }
      let (needs, delegate, w) := delegate.required d.context w
      let s := { s with entry := s.entry.add delegate }
      match needs with
      | .error f => (.error f, d, s, w)
      | .ok ks => (.ok { key := delegate.unitKey, items := [delegate], needs := ks }, d, s,
          noteKey delegate w)

/-- The unit of a declaration, or nothing when it is left out. -/
def build (d : Discovery) (position : Nat) (s : Station σ) (x : Declaration) (w : World σ) :
    Step σ (Option (WorkUnit (Delegate σ))) :=
  match x.marker? s.entry.marker with
  | none =>
    match x.qualifiedName with
    | .error f => (.error f, d, s, w)
    | .ok subject =>
      let (d, w) := d.record ⟨.malformed, "does not carry @" ++ s.entry.name, subject⟩ w
      (.ok none, d, s, w)
  | some m =>
    match x.isTestOnly with
    | .error f => (.error f, d, s, w)
    | .ok testOnly =>
      if testOnly && !d.context.testMode then
        match x.text with
        | .error _ => (.ok none, d, s, w)
        | .ok text => (.ok none, d, s, w.note [.debug source ("Skipping test-only " ++ text)])
      else
        let (unit, d, s, w) := d.enlist position s x m w
        (unit.map some, d, s, w)

def buildAll (position : Nat) : List Declaration → Discovery → Station σ → World σ →
    Step σ (List (WorkUnit (Delegate σ)))
  | [], d, s, w => (.ok [], d, s, w)
  | x :: xs, d, s, w =>
    match d.build position s x w with
    | (.error f, d, s, w) => (.error f, d, s, w)
    | (.ok unit, d, s, w) =>
      let (rest, d, s, w) := buildAll position xs d s w
      (rest.map (unit.toList ++ ·), d, s, w)

def buildKinds (position : Nat) : List ElementKind → Discovery → Station σ → World σ →
    Step σ (List (WorkUnit (Delegate σ)))
  | [], d, s, w => (.ok [], d, s, w)
  | kind :: kinds, d, s, w =>
    let (found, scanner, notes) := d.scanner.query s.entry.marker kind d.context.packages
    let d := { d with scanner }
    let w := w.note notes
    match found with
    | .error (.structural f) =>
      let (d, w) := d.record f w
      buildKinds position kinds d s w
    | .error f => (.error f, d, s, w)
    | .ok xs =>
      match buildAll position xs d s w with
      | (.error f, d, s, w) => (.error f, d, s, w)
      | (.ok units, d, s, w) =>
        let (rest, d, s, w) := buildKinds position kinds d s w
        (rest.map (units ++ ·), d, s, w)

def unknownTargets (t : MarkerType) (unknown : List String) : StructuralFault :=
  ⟨.unknownTarget, "unrecognised targets " ++ ", ".intercalate unknown ++
    "; applying to all element kinds", t.fullName⟩

/-- Discovers what carries the marker of a station among the kinds of its targets. -/
def discoverAmong (d : Discovery) (targets : Targets) (position : Nat) (s : Station σ)
    (w : World σ) : Step σ (List (WorkUnit (Delegate σ))) :=
  let (d, w) :=
    if targets.unknown.isEmpty then (d, w)
    else d.record (unknownTargets s.entry.marker targets.unknown) w
  match buildKinds position targets.kinds d s w with
  | (.error f, d, s, w) => (.error f, d, s, w)
  | (.ok units, d, s, w) =>
    (.ok units, d, s, w.note [.debug source ("@" ++ s.entry.name ++ ": discovered " ++
      toString units.length ++ " declaration(s)")])

def discover (d : Discovery) (position : Nat) (s : Station σ) (w : World σ) :
    Step σ (List (WorkUnit (Delegate σ))) :=
  match Targets.ofType s.entry.marker with
  | (.error f, notes) => (.error f, d, s, w.note notes)
  | (.ok targets, notes) => d.discoverAmong targets position s (w.note notes)

end Discovery

end Marking
