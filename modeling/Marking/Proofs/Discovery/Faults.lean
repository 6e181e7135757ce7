/-
# Marking.Proofs.Discovery.Faults -- how discovery can end

Structural faults are recorded and end nothing.  What else can end discovery is a failed check of
a handler, and two things that a declaration may be made with although later steps refuse them:
an owner without a name, which the type registry has no key for, and a class without a module,
which no scope can place.  `Ending` lists these ends with the declaration that each is about, and
says of a discovery that returns that it met no such declaration.  Discovery does not even begin
where the targets of the marker type cannot be listed (`Discovers.unlisted`).

The declarations are those of a fixed list, with texts and classes for owners; the marker type,
the handler, the scope and the world are any.  Discovery is followed from one declaration over the
answers of a scanner to the kinds of a marker type.  On the way nothing but the queue of the
station changes (`Stays`), and of one stretch after the other the declarations add up
(`Ending.append`).
-/
import Marking.Proofs.Discovery.Asking
import Marking.Proofs.Discovery.Enlisting
import Marking.Proofs.TypeRegistry.Injectors

set_option autoImplicit false

namespace Marking

variable {σ : Type}

/-! ## Owners -/

/-- The value is a text or a class. -/
inductive Value.IsOwner : Value → Prop
  | text (s : String) : IsOwner (.str s)
  | classRef (m : Option String) (q : String) (ms : List Marker) : IsOwner (.classRef m q ms)
  | builtin {b : Builtin} : b.isClass = true → IsOwner (.builtin b)
  | markerType (t : MarkerType) : IsOwner (.markerType t)

/-- Only the empty text is an owner without a key. -/
theorem UnitKey.ofValue_owner {v : Value} (owner : v.IsOwner) (named : v ≠ .str "") :
    ∃ k, ofValue v = .ok k := by
  cases owner with
  | text s =>
      refine ⟨⟨s, .type⟩, if_neg fun empty => named ?_⟩
      rw [String.isEmpty_iff.1 empty]
  | classRef m q ms =>
      obtain ⟨n, found⟩ := Value.qualifiedName_of_isClass (v := .classRef m q ms) rfl
      exact ⟨_, UnitKey.ofValue_of_isClass rfl found⟩
  | @builtin b isClass =>
      obtain ⟨n, found⟩ := Value.qualifiedName_of_isClass (v := .builtin b) isClass
      exact ⟨_, UnitKey.ofValue_of_isClass (v := .builtin b) isClass found⟩
  | markerType t =>
      obtain ⟨n, found⟩ := Value.qualifiedName_of_isClass (v := .markerType t) rfl
      exact ⟨_, UnitKey.ofValue_of_isClass rfl found⟩

namespace Declaration

variable {x : Declaration} {packages : List String}

/-- The owner has a place in the scope, or the scope holds everything. -/
def IsHoused (packages : List String) (x : Declaration) : Prop :=
  packages = [] ∨ x.package ≠ .ok none

theorem nameOf_ok {v : Value} (owner : v.IsOwner) : ∃ n, nameOf v = .ok n := by
  cases owner with
  | text s => exact ⟨s, rfl⟩
  | classRef m q ms => exact Value.qualifiedName_of_isClass (v := .classRef m q ms) rfl
  | @builtin b isClass => exact Value.qualifiedName_of_isClass (v := .builtin b) isClass
  | markerType t => exact Value.qualifiedName_of_isClass (v := .markerType t) rfl

theorem ownerKey_ok (owner : x.owner.IsOwner) : ∃ k, x.ownerKey = .ok k := by
  obtain ⟨n, named⟩ := nameOf_ok owner
  exact ⟨⟨n, .type⟩, congrArg (Except.map _) named⟩

theorem attachedMarkers_ok {v : Value} (owner : v.IsOwner) : ∃ ms, v.attachedMarkers = .ok ms := by
  cases owner <;> exact ⟨_, rfl⟩

theorem isTestOnly_ok (owner : x.owner.IsOwner) : ∃ b, x.isTestOnly = .ok b := by
  obtain ⟨ms, attached⟩ := attachedMarkers_ok owner
  rw [isTestOnly, attached]
  split <;> exact ⟨_, rfl⟩

theorem package_ok (owner : x.owner.IsOwner) : ∃ m, x.package = .ok m := by
  unfold package
  generalize x.owner = v at owner
  cases owner <;> exact ⟨_, rfl⟩

/-- Only a class without a module has no answer, and only in a scope. -/
theorem isInScope_ok_iff (owner : x.owner.IsOwner) :
    (∃ inside, x.isInScope packages = .ok inside) ↔ x.IsHoused packages := by
  obtain ⟨m, package⟩ := package_ok owner
  rw [IsHoused, isInScope, package]
  cases m with
  | some m => simp [Except.bind]
  | none => cases packages <;> simp [Except.bind]

/-- What it says instead. -/
theorem isInScope_unhoused (owner : x.owner.IsOwner) (unhoused : ¬ x.IsHoused packages) :
    x.isInScope packages = .error (.missingAttribute "NoneType" "startswith") := by
  obtain ⟨m, package⟩ := package_ok owner
  rw [IsHoused, package, not_or, not_not] at unhoused
  obtain ⟨some, none⟩ := unhoused
  cases none
  rw [isInScope, package]
  exact if_neg (by simpa using some)

/-! ## The answers of a fixed list -/

/-- The answer lists declarations, unless one that is asked about has no place in the scope. -/
theorem select_ends (kind : ElementKind) (t : MarkerType) {decls : List Declaration}
    (owners : ∀ x ∈ decls, x.owner.IsOwner) :
    (∃ found, select kind t packages decls = .ok found ∧
      ∀ x ∈ decls.filter (isAsked kind t), x.IsHoused packages) ∨
    ∃ x ∈ decls.filter (isAsked kind t), ¬ x.IsHoused packages ∧
      select kind t packages decls = .error (.missingAttribute "NoneType" "startswith") := by
  induction decls with
  | nil => exact .inl ⟨[], rfl, by simp⟩
  | cons x decls ih =>
      have rest := ih fun y member => owners y (List.mem_cons_of_mem x member)
      have owner := owners x List.mem_cons_self
      by_cases asked : isAsked kind t x = true
      · rw [List.filter_cons_of_pos asked, select_cons_asked decls asked]
        by_cases housed : x.IsHoused packages
        · obtain ⟨inside, answer⟩ := (isInScope_ok_iff owner).2 housed
          rw [answer]
          rcases rest with ⟨found, listed, all⟩ | ⟨y, member, unhoused, failed⟩
          · refine .inl ⟨if inside then x :: found else found, ?_, List.forall_mem_cons.2 ⟨housed, all⟩⟩
            cases inside <;> simp [listed, Except.map]
          · refine .inr ⟨y, List.mem_cons_of_mem x member, unhoused, ?_⟩
            cases inside <;> simp [failed, Except.map]
        · refine .inr ⟨x, List.mem_cons_self, housed, ?_⟩
          rw [isInScope_unhoused owner housed]
      · rw [List.filter_cons_of_neg asked, select_cons_passed decls asked]
        exact rest

end Declaration

namespace Discovery

/-! ## Ends -/

/-- The ends of discovery at a station with the handler, where the scope was asked about some
declarations and some were met: it returns, the handler fails to check a delegate, an owner has no
name, or one has no place in the scope. -/
inductive Ending {α : Type} (ctx : Context) (h : Handler σ) (asked met : List Declaration) :
    Except Fault α → Prop
  | returns (a : α) : (∀ x ∈ asked, x.IsHoused ctx.packages) → (∀ x ∈ met, x.owner ≠ .str "") →
      Ending ctx h asked met (.ok a)
  | refused (d : Delegate σ) (w : World σ) (f : Fault) : d.declaration ∈ met → d.handler = h →
      (h.check ctx d.view d.control w).1.bind Value.dependencies = .error f →
      Ending ctx h asked met (.error (d.checkFault f))
  | unnamed (x : Declaration) : x ∈ met → x.owner = .str "" →
      Ending ctx h asked met (.error .emptyKeyName)
  | unhoused (x : Declaration) : x ∈ asked → ¬ x.IsHoused ctx.packages →
      Ending ctx h asked met (.error (.missingAttribute "NoneType" "startswith"))

variable {α β : Type} {ctx : Context} {h : Handler σ} {asked met more new : List Declaration}
  {r : Except Fault α}

theorem Ending.map (ending : Ending ctx h asked met r) (f : α → β) :
    Ending ctx h asked met (r.map f) := by
  cases ending with
  | returns a housed named => exact .returns (f a) housed named
  | refused d w g member own failed => exact .refused d w g member own failed
  | unnamed x member empty => exact .unnamed x member empty
  | unhoused x member unhoused => exact .unhoused x member unhoused

/-- A stretch that ended has ended, whatever would have come. -/
theorem Ending.error (more new : List Declaration) {f : Fault}
    (ending : Ending (α := α) ctx h asked met (.error f)) :
    Ending (α := β) ctx h (asked ++ more) (met ++ new) (.error f) := by
  cases ending with
  | refused d w g member own failed =>
      exact .refused d w g (List.mem_append_left new member) own failed
  | unnamed x member empty => exact .unnamed x (List.mem_append_left new member) empty
  | unhoused x member unhoused => exact .unhoused x (List.mem_append_left more member) unhoused

/-- A stretch that returned, and the one that goes on from there. -/
theorem Ending.append {a : α} {r : Except Fault β} (first : Ending ctx h asked met (.ok a))
    (second : Ending ctx h more new r) : Ending ctx h (asked ++ more) (met ++ new) r := by
  cases first with
  | returns _ housed named =>
      cases second with
      | returns b housedRest namedRest =>
          exact .returns b (List.forall_mem_append.2 ⟨housed, housedRest⟩)
            (List.forall_mem_append.2 ⟨named, namedRest⟩)
      | refused d w g member own failed =>
          exact .refused d w g (List.mem_append_right met member) own failed
      | unnamed x member empty => exact .unnamed x (List.mem_append_right met member) empty
      | unhoused x member unhoused =>
          exact .unhoused x (List.mem_append_right asked member) unhoused

/-- A stretch of discovery at a station leaves everything but its queue and the count of delegates. -/
structure Stays (d : Discovery) (s : Station σ) (d' : Discovery) (s' : Station σ) : Prop where
  scanner : d'.scanner = d.scanner
  context : d'.context = d.context
  structural : d'.structural = d.structural
  handler : s'.handler = s.handler
  marker : s'.entry.marker = s.entry.marker

theorem Stays.refl (d : Discovery) (s : Station σ) : Stays d s d s := ⟨rfl, rfl, rfl, rfl, rfl⟩

theorem Stays.trans {d mid d' : Discovery} {s t s' : Station σ} (first : Stays d s mid t)
    (second : Stays mid t d' s') : Stays d s d' s' :=
  ⟨second.scanner.trans first.scanner, second.context.trans first.context,
    second.structural.trans first.structural, second.handler.trans first.handler,
    second.marker.trans first.marker⟩

/-- How a stretch ends, and what it leaves alone. -/
structure Goes (d : Discovery) (s : Station σ) (asked met : List Declaration)
    (x : Except Fault α × Discovery × Station σ × World σ) : Prop where
  ending : Ending d.context s.handler asked met x.1
  stays : Stays d s x.2.1 x.2.2.1

/-! ## Declarations -/

variable {x : Declaration} {decls : List Declaration}

/-- All that can fail about the needs of a delegate is the check of its handler. -/
theorem required_ends {d : Delegate σ} (open' : d.needs = none) (named : d.declaration.owner ≠ .str "")
    (ctx : Context) (w : World σ) :
    Ending ctx d.handler [] [d.declaration] (d.required ctx w).1 := by
  rw [Delegate.required, open']
  cases checked : d.handler.check ctx d.view d.control w with
  | mk answer rest =>
      obtain ⟨control, next⟩ := rest
      dsimp only
      cases read : answer.bind Value.dependencies with
      | ok ks => exact .returns ks (by simp) (by simpa using named)
      | error f =>
          refine .refused d w f (List.mem_singleton_self _) rfl ?_
          rw [checked]
          exact read

theorem enlist_goes (d : Discovery) (position : Nat) (s : Station σ) (m : Marker) (w : World σ)
    (owner : x.owner.IsOwner) : Goes d s [] [x] (d.enlist position s x m w) := by
  obtain ⟨key, hasKey⟩ := Declaration.ownerKey_ok owner
  rw [enlist, hasKey]
  by_cases named : x.owner = .str ""
  · have refused : w.addType x.owner = (.error .emptyKeyName, w) := by
      rw [named]
      rfl
    dsimp only
    rw [refused]
    exact ⟨.unnamed x (List.mem_singleton_self x) named, .refl d s⟩
  · obtain ⟨k, found⟩ := UnitKey.ofValue_owner owner named
    have added : ∃ known, w.addType x.owner = (.ok (), known) := by
      rw [World.addType, TypeRegistry.addType, found]
      exact ⟨_, rfl⟩
    obtain ⟨known, added⟩ := added
    dsimp only
    rw [added]
    dsimp only
    have ends := required_ends (d :=
      { serial := d.made, entry := position, markerName := s.entry.name, handler := s.handler
        declaration := x, marker := m, key, control := .ofKey key }) rfl named d.context known
    generalize Delegate.required d.context _ known = outcome at ends ⊢
    obtain ⟨needs, y, next⟩ := outcome
    cases needs with
    | error f => exact ⟨ends.error [] [], ⟨rfl, rfl, rfl, rfl, rfl⟩⟩
    | ok ks => exact ⟨ends.map fun _ => _, ⟨rfl, rfl, rfl, rfl, rfl⟩⟩

theorem build_goes (d : Discovery) (position : Nat) (s : Station σ) (w : World σ)
    (owner : x.owner.IsOwner) (marked : x.hasMarker s.entry.marker = true) :
    Goes d s [] ([x].filter (isTaken d.context s.entry.marker)) (d.build position s x w) := by
  obtain ⟨m, isMarker⟩ := Option.isSome_iff_exists.1 marked
  obtain ⟨testOnly, test⟩ := Declaration.isTestOnly_ok owner
  have taken : isTaken d.context s.entry.marker x = (!testOnly || d.context.testMode) := by
    simp [isTaken, marked, isAdmitted, test]
  rw [build, isMarker]
  dsimp only
  rw [test]
  dsimp only
  by_cases leave : (testOnly && !d.context.testMode) = true
  · have skipped : ¬ isTaken d.context s.entry.marker x = true := by
      rw [taken]
      revert leave
      cases testOnly <;> simp
    rw [if_pos leave, List.filter_cons_of_neg skipped]
    cases x.text with
    | error f => exact ⟨.returns none (by simp) (by simp), .refl d s⟩
    | ok text => exact ⟨.returns none (by simp) (by simp), .refl d s⟩
  · have kept : isTaken d.context s.entry.marker x = true := by
      rw [taken]
      revert leave
      cases testOnly <;> simp
    rw [if_neg leave, List.filter_cons_of_pos kept]
    have goes := enlist_goes d position s m w owner
    exact ⟨goes.ending.map some, goes.stays⟩

theorem buildAll_goes (position : Nat) (d : Discovery) (s : Station σ) (w : World σ)
    (owners : ∀ x ∈ decls, x.owner.IsOwner) (marked : ∀ x ∈ decls, x.hasMarker s.entry.marker = true) :
    Goes d s [] (decls.filter (isTaken d.context s.entry.marker)) (buildAll position decls d s w) := by
  induction decls generalizing d s w with
  | nil => exact ⟨.returns [] (by simp) (by simp), .refl d s⟩
  | cons x decls ih =>
      have here := build_goes d position s w (owners x List.mem_cons_self) (marked x List.mem_cons_self)
      rw [buildAll]
      generalize d.build position s x w = outcome at here ⊢
      obtain ⟨unit, mid, t, next⟩ := outcome
      rw [← List.singleton_append, List.filter_append]
      cases unit with
      | error f => exact ⟨here.ending.error [] _, here.stays⟩
      | ok unit =>
          have marker : t.entry.marker = s.entry.marker := here.stays.marker
          have rest := ih mid t next (fun y member => owners y (List.mem_cons_of_mem x member))
            fun y member => marker ▸ marked y (List.mem_cons_of_mem x member)
          have later := rest.ending
          rw [here.stays.context, here.stays.handler, marker] at later
          exact ⟨here.ending.append (later.map (unit.toList ++ ·)), here.stays.trans rest.stays⟩

/-! ## Kinds -/

/-- The declarations about which the scope is asked, kind by kind. -/
def lookedUp (t : MarkerType) (kinds : List ElementKind) (decls : List Declaration) :
    List Declaration :=
  kinds.flatMap fun kind => decls.filter (Declaration.isAsked kind t)

theorem buildKinds_goes (position : Nat) (kinds : List ElementKind) (d : Discovery) (s : Station σ)
    (w : World σ) (fixed : d.scanner = .fixed decls) (owners : ∀ x ∈ decls, x.owner.IsOwner) :
    Goes d s (lookedUp s.entry.marker kinds decls) (chosen d.context s.entry.marker kinds decls)
      (buildKinds position kinds d s w) := by
  induction kinds generalizing d s w with
  | nil => exact ⟨.returns [] (by simp [lookedUp]) (by simp [chosen]), .refl d s⟩
  | cons kind kinds ih =>
      obtain ⟨scanner, context, structural, made⟩ := d
      obtain rfl : scanner = .fixed decls := fixed
      rw [buildKinds, Scanner.query_fixed, chosen_cons, lookedUp, List.flatMap_cons, ← lookedUp]
      dsimp only
      rcases Declaration.select_ends kind s.entry.marker owners with
        ⟨found, listed, housed⟩ | ⟨x, member, unhoused, failed⟩
      · have selected := select_spec listed
        have asks : Ending context s.handler (decls.filter (Declaration.isAsked kind s.entry.marker)) []
            (.ok ()) := .returns () housed (by simp)
        have marked : ∀ x ∈ found, x.hasMarker s.entry.marker = true := by simp_all [isSelected]
        have here := buildAll_goes position ⟨.fixed decls, context, structural, made⟩ s (w.note [])
          (fun x member => owners x (List.mem_of_mem_filter (selected ▸ member))) marked
        rw [selected, filter_isTaken_select] at here
        have sofar := asks.append here.ending
        rw [List.append_nil, List.nil_append] at sofar
        rw [listed]
        dsimp only
        rw [selected]
        generalize buildAll position _ _ s (w.note []) = outcome at here sofar ⊢
        obtain ⟨units, mid, t, next⟩ := outcome
        cases units with
        | error f => exact ⟨sofar.error _ _, here.stays⟩
        | ok units =>
            have rest := ih mid t next here.stays.scanner
            have context' : mid.context = context := here.stays.context
            have handler : t.handler = s.handler := here.stays.handler
            have marker : t.entry.marker = s.entry.marker := here.stays.marker
            have later := rest.ending
            rw [context', handler, marker] at later
            exact ⟨sofar.append (later.map (units ++ ·)), here.stays.trans rest.stays⟩
      · rw [failed]
        have ends : Ending (α := List (WorkUnit (Delegate σ))) context s.handler
            (decls.filter (Declaration.isAsked kind s.entry.marker)) []
            (.error (.missingAttribute "NoneType" "startswith")) := .unhoused x member unhoused
        exact ⟨ends.error _ _, .refl _ s⟩

/-! ## Discovery -/

/-- The structural fault of the targets of a marker type, if there is one. -/
def targetFaults (t : MarkerType) (targets : Targets) : List StructuralFault :=
  if targets.unknown.isEmpty then [] else [unknownTargets t targets.unknown]

theorem Ending.sound {α : Type} {ctx : Context} {h : Handler σ} {asked met : List Declaration}
    {r : Except Fault α} (ending : Ending ctx h asked met r)
    (housed : ∀ x ∈ asked, x.IsHoused ctx.packages) (named : ∀ x ∈ met, x.owner ≠ .str "") :
    (∃ a, r = .ok a) ∨ ∃ f, r = .error f ∧ f.IsFailedCheck := by
  cases ending with
  | returns a _ _ => exact .inl ⟨a, rfl⟩
  | refused d w f _ _ _ => exact .inr ⟨_, rfl, d.isFailedCheck_checkFault f⟩
  | unnamed x member empty => exact absurd empty (named x member)
  | unhoused x member unhoused => exact absurd (housed x member) unhoused

/-- How discovery at a station ends when the scanner serves a fixed list. -/
structure Discovers (d : Discovery) (s : Station σ) (decls : List Declaration)
    (x : Except Fault (List (WorkUnit (Delegate σ))) × Discovery × Station σ × World σ) : Prop where
  /-- The kinds that the targets come to are looked for. -/
  ending : ∀ targets, (Targets.ofType s.entry.marker).1 = .ok targets →
    Ending d.context s.handler (lookedUp s.entry.marker targets.kinds decls)
      (chosen d.context s.entry.marker targets.kinds decls) x.1
  /-- However it ends, every structural fault is recorded. -/
  recorded : ∀ targets, (Targets.ofType s.entry.marker).1 = .ok targets →
    x.2.1.structural = d.structural ++ targetFaults s.entry.marker targets
  /-- Targets come to nothing where a part that names no kind cannot be written, and that ends it. -/
  unlisted : ∀ parts f, Targets.Unnamed s.entry.marker.targets parts → Targets.FailsAt parts f →
    x.1 = .error f ∧ x.2.1 = d
  /-- Where what is unknown can be written and all owners have names and places, it returns or a
  check has failed. -/
  sound : (∀ parts, Targets.Unnamed s.entry.marker.targets parts →
      ∀ v ∈ parts, ∃ text, v.expression = .ok text) →
    (∀ y ∈ decls, y.owner ≠ .str "" ∧ y.IsHoused d.context.packages) →
    (∃ units, x.1 = .ok units) ∨ ∃ f, x.1 = .error f ∧ f.IsFailedCheck

/-- Discovery among the kinds that the targets come to. -/
theorem discoverAmong_ends (d : Discovery) (targets : Targets) (position : Nat) (s : Station σ)
    (w : World σ) {decls : List Declaration} (fixed : d.scanner = .fixed decls)
    (owners : ∀ x ∈ decls, x.owner.IsOwner) :
    Ending d.context s.handler (lookedUp s.entry.marker targets.kinds decls)
      (chosen d.context s.entry.marker targets.kinds decls)
      (d.discoverAmong targets position s w).1 ∧
    (d.discoverAmong targets position s w).2.1.structural =
      d.structural ++ targetFaults s.entry.marker targets := by
  unfold discoverAmong
  generalize begun : (if targets.unknown.isEmpty then (d, w)
    else d.record (unknownTargets s.entry.marker targets.unknown) w) = start
  obtain ⟨mid, ready⟩ := start
  have same : mid.scanner = d.scanner ∧ mid.context = d.context ∧
      mid.structural = d.structural ++ targetFaults s.entry.marker targets := by
    rw [targetFaults]
    split at begun
    · next none =>
        cases begun
        exact ⟨rfl, rfl, by rw [if_pos none, List.append_nil]⟩
    · next some =>
        cases begun
        exact ⟨rfl, rfl, by rw [if_neg some]⟩
  obtain ⟨scanner, context, structural⟩ := same
  have goes := buildKinds_goes position targets.kinds mid s ready (scanner.trans fixed) owners
  dsimp only
  generalize buildKinds position targets.kinds mid s ready = outcome at goes ⊢
  obtain ⟨units, last, t, next⟩ := outcome
  obtain ⟨ending, stays⟩ := goes
  rw [context] at ending
  have recorded : last.structural = d.structural ++ targetFaults s.entry.marker targets :=
    stays.structural.trans structural
  cases units with
  | error f => exact ⟨ending, recorded⟩
  | ok units => exact ⟨ending, recorded⟩

end Discovery

namespace Sample

def station : Station Bool := { handler := handler false, entry := { marker := made } }

/-- What becomes of a declaration of a type with the owner, when it can be made. -/
def discovered (packages : List String) (owner : Value) : Except Fault Nat :=
  (Declaration.make .type owner "" [.mk made []]).bind fun x =>
    (Discovery.discover { scanner := .fixed [x], context := { packages } } 0 station
      { own := false }).1.map List.length

/-- A type of markers whose targets hold a number that cannot be written. -/
def boundless : MarkerType :=
  .derive .root 5 "Boundless" (some "sample") (some (.tuple [.int (Nat.pow 10 5000 : Nat)]))

end Sample

end Marking
