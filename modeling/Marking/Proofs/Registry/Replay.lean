/-
# Marking.Proofs.Registry.Replay -- a registry is what its registrations made it

A registry keeps handlers and rules apart and remembers an ordering.  What it should be is one
list of registrations: a registration goes to its end, a deregistration takes one out, and
whatever is refused changes nothing.  `Coherent regs r` says that the registry has the handlers
and the rules of such a list, and that an ordering that it remembers is the one made from
scratch.  Every operation keeps it (`Coherent.step`), since each that changes the list also
forgets the ordering.

So after any history the registry mirrors the replay of the changes in it (`history_mirrored`):
what it lists is what an ordering made from scratch lists, and it fails exactly when that does.
-/
import Marking.Proofs.Ordering.Placement
import Marking.Registry

set_option autoImplicit false

namespace Marking.Registry

open Marking.Ordering (serials)

variable {σ : Type}

/-! ## Registrations -/

def markersOf (regs : List (Registration σ)) : List MarkerType := regs.map Registration.marker

def rulesOf (regs : List (Registration σ)) : List (MarkerType × List Rule) :=
  regs.map fun x => (x.marker, x.rules)

def handlersOf (regs : List (Registration σ)) : List (MarkerType × Handler σ) :=
  regs.map fun x => (x.marker, x.handler)

def fromScratch (regs : List (Registration σ)) : Except Fault Ordering :=
  (Ordering.ofRules (markersOf regs) (rulesOf regs)).1

def own? (regs : List (Registration σ)) (t : MarkerType) : Option (Registration σ) :=
  regs.find? fun x => x.marker == t

def others (regs : List (Registration σ)) (t : MarkerType) : List (Registration σ) :=
  regs.filter fun x => !(x.marker == t)

theorem lookup_map {α : Type} (f : Registration σ → α) (regs : List (Registration σ))
    (t : MarkerType) :
    lookup (regs.map fun x => (x.marker, f x)) t = (own? regs t).map f := by
  rw [lookup, List.find?_map, Option.map_map]
  rfl

theorem without_map {α : Type} (f : Registration σ → α) (regs : List (Registration σ))
    (t : MarkerType) :
    without (regs.map fun x => (x.marker, f x)) t = (others regs t).map fun x => (x.marker, f x) := by
  rw [without, List.filter_map]
  rfl

/-- The registry has these registrations, and remembers no ordering but theirs. -/
structure Coherent (regs : List (Registration σ)) (r : Registry σ) : Prop where
  handlers : r.handlers = handlersOf regs
  rules : r.rules = rulesOf regs
  distinct : (serials (markersOf regs)).Nodup
  remembered : ∀ o, r.ordering = some o → fromScratch regs = .ok o

variable {regs : List (Registration σ)} {r : Registry σ}

theorem coherent_nil : Coherent [] ({} : Registry σ) where
  handlers := rfl
  rules := rfl
  distinct := List.nodup_nil
  remembered _ absurd' := nomatch absurd'

namespace Coherent

variable (h : Coherent regs r)
include h

theorem registered : r.registered = markersOf regs := by
  rw [Registry.registered, h.handlers, handlersOf, List.map_map]
  rfl

theorem handler? (t : MarkerType) : r.handler? t = (own? regs t).map Registration.handler := by
  rw [Registry.handler?, h.handlers, handlersOf, lookup_map]

theorem rules? (t : MarkerType) : lookup r.rules t = (own? regs t).map Registration.rules := by
  rw [h.rules, rulesOf, lookup_map]

/-- The registration of a marker type, by its serial number. -/
theorem own?_eq {x : Registration σ} (member : x ∈ regs) {t : MarkerType}
    (same : x.marker.serial = t.serial) : own? regs t = some x := by
  obtain ⟨y, found⟩ : ∃ y, own? regs t = some y := by
    rw [← Option.isSome_iff_exists, own?, List.find?_isSome]
    exact ⟨x, member, MarkerType.beq_iff.2 same⟩
  have yMember : y ∈ regs := List.mem_of_find?_eq_some found
  have ySame : (y.marker == t) = true :=
    List.find?_some (p := fun x : Registration σ => x.marker == t) found
  have distinct := h.distinct
  rw [serials, markersOf, List.map_map] at distinct
  have both : y = x := List.inj_on_of_nodup_map distinct yMember member
    ((MarkerType.beq_iff.1 ySame).trans same.symm)
  rw [found, both]

end Coherent

/-! ## Changes -/

/-- What a successful operation does to the registrations. -/
inductive Change (σ : Type) where
  | registered (x : Registration σ)
  | deregistered (t : MarkerType)

def Change.apply (regs : List (Registration σ)) : Change σ → List (Registration σ)
  | registered x => regs ++ [x]
  | deregistered t => others regs t

def replay (cs : List (Change σ)) : List (Registration σ) := cs.foldl Change.apply []

/-- The rules that come with a registration: none, or those of a collection. -/
def offered : Option (List Rule) → RuleOffer
  | none => .absent
  | some rs => .rules rs

/-- A new marker type is registered with its rules. -/
theorem Coherent.put (h : Coherent regs r) {t : MarkerType} (new : r.has t = false) (hd : Handler σ)
    (rules : Option (List Rule)) :
    ∃ notes next, putRules { r with handlers := r.handlers ++ [(t, hd)] } t hd (offered rules) =
        (.ok (), next, notes) ∧ Coherent (regs ++ [⟨t, hd, rules.getD []⟩]) next := by
  have distinct : (serials (markersOf (regs ++ [⟨t, hd, rules.getD []⟩]))).Nodup := by
    rw [markersOf, serials, List.map_append, List.map_append]
    refine Precedence.nodup_snoc h.distinct fun known => ?_
    obtain ⟨m, mMember, same⟩ := List.mem_map.1 known
    obtain ⟨x, xMember, rfl⟩ := List.mem_map.1 mMember
    rw [has, h.handler?, h.own?_eq xMember same] at new
    cases new
  have made : ∀ o, (none : Option Ordering) = some o →
      fromScratch (regs ++ [⟨t, hd, rules.getD []⟩]) = .ok o := by
    intro o kept
    cases kept
  cases rules with
  | none =>
      refine ⟨_, _, rfl, ?_, ?_, distinct, made⟩
      · rw [h.handlers, handlersOf, handlersOf, List.map_append]
        rfl
      · rw [h.rules, rulesOf, rulesOf, List.map_append]
        rfl
  | some rs =>
      refine ⟨_, _, rfl, ?_, ?_, distinct, made⟩
      · rw [h.handlers, handlersOf, handlersOf, List.map_append]
        rfl
      · rw [h.rules, rulesOf, rulesOf, List.map_append]
        rfl

/-- The change that a registration is when it succeeds. -/
def registering (marker : Value) (offer : Offer σ) (rules : Option (List Rule)) :
    Option (Change σ) :=
  match marker.asMarkerType?, offer with
  | some t, .handler hd => some (.registered ⟨t, hd, rules.getD []⟩)
  | _, _ => none

/-- The outcome of an operation on a coherent registry: it makes the change, if there is one, or
fails and leaves the registry as it was. -/
def Makes (regs : List (Registration σ)) (r : Registry σ) (change : Option (Change σ))
    (x : Except Fault Unit × Registry σ × Journal) : Prop :=
  (∃ c, change = some c ∧ x.1 = .ok () ∧ Coherent (c.apply regs) x.2.1) ∨
    ((∃ f, x.1 = .error f) ∧ x.2.1 = r)

/-- **A registration is stored at the end, or refused without a trace.** -/
theorem Coherent.register (h : Coherent regs r) (marker : Value) (offer : Offer σ)
    (rules : Option (List Rule)) :
    Makes regs r (registering marker offer rules) (r.register marker offer (offered rules)) := by
  rw [Registry.register]
  cases isType : marker.asMarkerType? with
  | none => exact .inr ⟨⟨_, rfl⟩, rfl⟩
  | some t =>
      cases offer with
      | other v => exact .inr ⟨⟨_, rfl⟩, rfl⟩
      | handler hd =>
          cases known : r.has t with
          | true =>
              simp only [known, if_true]
              exact .inr ⟨⟨_, rfl⟩, rfl⟩
          | false =>
              obtain ⟨notes, next, put, coherent⟩ := h.put known hd rules
              simp only [known, Bool.false_eq_true, if_false, put]
              refine .inl ⟨.registered ⟨t, hd, rules.getD []⟩, ?_, rfl, coherent⟩
              simp only [registering, isType]

/-- Nothing else is lost when a marker type is deregistered, and no ordering is remembered. -/
theorem Coherent.remove (h : Coherent regs r) (t : MarkerType) :
    Coherent (others regs t)
      { handlers := without r.handlers t, rules := without r.rules t, ordering := none } where
  handlers := by rw [h.handlers, handlersOf, handlersOf, without_map]
  rules := by rw [h.rules, rulesOf, rulesOf, without_map]
  distinct := h.distinct.sublist ((List.filter_sublist.map _).map _)
  remembered _ absurd' := nomatch absurd'

/-- The change that a deregistration is when it succeeds. -/
def deregistering (marker : Value) : Option (Change σ) :=
  marker.asMarkerType?.map Change.deregistered

/-- **A deregistration takes one registration out, or is refused without a trace.** -/
theorem Coherent.deregister (h : Coherent regs r) (marker : Value) :
    Makes regs r (deregistering marker) (r.deregister marker) := by
  rw [Registry.deregister]
  cases isType : marker.asMarkerType? with
  | none =>
      cases r.handlerOf? marker with
      | error f => exact .inr ⟨⟨_, rfl⟩, rfl⟩
      | ok found => cases found <;> exact .inr ⟨⟨_, rfl⟩, rfl⟩
  | some t =>
      cases looked : r.handlerOf? marker with
      | error f => exact .inr ⟨⟨_, rfl⟩, rfl⟩
      | ok found =>
          cases found with
          | none => exact .inr ⟨⟨_, rfl⟩, rfl⟩
          | some hd =>
              -- What has a handler has rules too, since both come from one registration.
              have registered : (own? regs t).isSome := by
                rw [handlerOf?, isType] at looked
                cases hashed : marker.requireHashable with
                | error f =>
                    rw [hashed] at looked
                    cases looked
                | ok _ =>
                    rw [hashed] at looked
                    have isHandler : r.handler? t = some hd := Except.ok.inj looked
                    rw [h.handler?] at isHandler
                    obtain ⟨x, found, -⟩ := Option.map_eq_some_iff.1 isHandler
                    rw [found]
                    rfl
              obtain ⟨x, own⟩ := Option.isSome_iff_exists.1 registered
              simp only [h.rules?, own, Option.map_some]
              refine .inl ⟨.deregistered t, ?_, rfl, h.remove t⟩
              rw [deregistering, isType]
              rfl

/-! ## Reading -/

theorem order_handlers (r : Registry σ) : r.order.2.1.handlers = r.handlers := by
  rw [order]
  cases r.ordering with
  | some o => rfl
  | none =>
      dsimp only
      cases Ordering.ofRules r.registered r.rules with
      | mk result notes => cases result <;> rfl

theorem order_rules (r : Registry σ) : r.order.2.1.rules = r.rules := by
  rw [order]
  cases r.ordering with
  | some o => rfl
  | none =>
      dsimp only
      cases Ordering.ofRules r.registered r.rules with
      | mk result notes => cases result <;> rfl

/-- The ordering is the one from scratch, remembered or not, and asking for it changes nothing
else. -/
theorem Coherent.order (h : Coherent regs r) :
    r.order.1 = fromScratch regs ∧ Coherent regs r.order.2.1 := by
  rw [Registry.order]
  cases kept : r.ordering with
  | some o => exact ⟨(h.remembered o kept).symm, h⟩
  | none =>
      cases made : Ordering.ofRules r.registered r.rules with
      | mk result notes =>
          have isMade : fromScratch regs = result := by
            rw [fromScratch, ← h.registered, ← h.rules, made]
          cases result with
          | error f => exact ⟨isMade.symm, h⟩
          | ok o =>
              refine ⟨isMade.symm, h.handlers, h.rules, h.distinct, fun o' same => ?_⟩
              cases same
              exact isMade

theorem Coherent.markerTypes (h : Coherent regs r) :
    r.markerTypes.1 = (fromScratch regs).map Ordering.order ∧ Coherent regs r.markerTypes.2.1 :=
  ⟨congrArg (Except.map Ordering.order) h.order.1, h.order.2⟩

/-- Marker types with registrations are listed with them. -/
theorem Coherent.registrationsOf (h : Coherent regs r) {ts : List MarkerType}
    (known : ∀ t ∈ ts, t ∈ markersOf regs) :
    ∃ rs, r.registrationsOf ts = .ok rs ∧ markersOf rs = ts ∧ ∀ x ∈ rs, x ∈ regs := by
  induction ts with
  | nil => exact ⟨[], rfl, rfl, fun _ member => nomatch member⟩
  | cons t ts ih =>
      obtain ⟨rs, listed, markers, inside⟩ := ih fun u member => known u (List.mem_cons_of_mem t member)
      obtain ⟨x, member, isMarker⟩ := List.mem_map.1 (known t List.mem_cons_self)
      have own := h.own?_eq member (congrArg MarkerType.serial isMarker)
      refine ⟨x :: rs, ?_, ?_, ?_⟩
      · rw [Registry.registrationsOf, h.handler?, h.rules?, own, listed, ← isMarker]
        rfl
      · rw [markersOf, List.map_cons, isMarker]
        exact congrArg (t :: ·) markers
      · intro y inList
        rcases List.mem_cons.1 inList with rfl | later
        · exact member
        · exact inside y later

theorem Coherent.distinct_eq (h : Coherent regs r) :
    Ordering.distinct (markersOf regs) = markersOf regs :=
  Ordering.distinct_of_nodup h.distinct

/-- The order from scratch has every registered marker type once, and against no rule. -/
theorem Coherent.isOrder (h : Coherent regs r) {o : Ordering} (made : fromScratch regs = .ok o) :
    Ordering.IsOrder (markersOf regs) (rulesOf regs) o.order :=
  h.distinct_eq ▸ Ordering.ofRules_ok made

/-- **The registrations are listed in the order from scratch**, each marker type with its own
handler and its own rules. -/
theorem Coherent.registrations (h : Coherent regs r) {o : Ordering}
    (made : fromScratch regs = .ok o) :
    ∃ rs, r.registrations.1 = .ok rs ∧ markersOf rs = o.order ∧ rs.Perm regs := by
  have order := (h.isOrder made).perm
  obtain ⟨listedTypes, coherent⟩ := h.markerTypes
  obtain ⟨rs, listed, markers, inside⟩ := coherent.registrationsOf fun t member =>
    order.mem_iff.1 member
  refine ⟨rs, ?_, markers, ?_⟩
  · rw [made] at listedTypes
    rw [Registry.registrations]
    generalize r.markerTypes = outcome at listedTypes listed ⊢
    obtain ⟨result, next, notes⟩ := outcome
    cases listedTypes
    exact listed
  · -- Both lists are without repetitions, and a serial number tells what is registered under it.
    have serialsPerm : (rs.map fun x => x.marker.serial).Perm (regs.map fun x => x.marker.serial) := by
      have perm := order.map MarkerType.serial
      rwa [← markers, markersOf, markersOf, List.map_map, List.map_map] at perm
    have distinct : (regs.map fun x => x.marker.serial).Nodup := by
      have nodup := h.distinct
      rwa [serials, markersOf, List.map_map] at nodup
    have nodup : rs.Nodup := .of_map _ (serialsPerm.nodup_iff.2 distinct)
    refine (List.perm_ext_iff_of_nodup nodup (.of_map _ distinct)).2 fun x =>
      ⟨inside x, fun member => ?_⟩
    have known := serialsPerm.mem_iff.2 (List.mem_map_of_mem (f := fun x => x.marker.serial) member)
    obtain ⟨y, yMember, same⟩ := List.mem_map.1 known
    have isSame : y = x := List.inj_on_of_nodup_map distinct (inside y yMember) member same
    exact isSame ▸ yMember

/-- The registrations are listed by the order that the registry keeps. -/
theorem registrations_of_order (r : Registry σ) :
    r.registrations.1 = (r.order.1.bind fun o => r.order.2.1.registrationsOf o.order) ∧
      r.registrations.2 = r.order.2 := by
  rw [Registry.registrations, Registry.markerTypes]
  obtain ⟨result, next, notes⟩ := r.order
  cases result <;> exact ⟨rfl, rfl⟩

theorem Coherent.registrations_error (h : Coherent regs r) {f : Fault}
    (failed : fromScratch regs = .error f) : r.registrations.1 = .error f := by
  rw [r.registrations_of_order.1, h.order.1, failed]
  rfl

/-! ## Histories -/

inductive Operation (σ : Type) where
  | register (marker : Value) (offer : Offer σ) (rules : Option (List Rule))
  /-- A class is asked for a handler first, which may fail. -/
  | registerMade (marker : Value) (made : Except Fault (Offer σ)) (rules : Option (List Rule))
  | deregister (marker : Value)
  | ordering
  | markerTypes
  | entries

namespace Operation

def run (r : Registry σ) : Operation σ → Except Fault Unit × Registry σ × Journal
  | register marker offer rules => r.register marker offer (offered rules)
  | registerMade marker made rules => r.registerMade marker made (offered rules)
  | deregister marker => r.deregister marker
  | ordering => (r.order.1.map fun _ => (), r.order.2)
  | markerTypes => (r.markerTypes.1.map fun _ => (), r.markerTypes.2)
  | entries => (r.registrations.1.map fun _ => (), r.registrations.2)

/-- The change that the operation is when it succeeds; readings change nothing. -/
def change? : Operation σ → Option (Change σ)
  | register marker offer rules => registering marker offer rules
  | registerMade marker (.ok offer) rules => registering marker offer rules
  | registerMade _ (.error _) _ => none
  | deregister marker => deregistering marker
  | _ => none

/-- The change that the operation makes. -/
def made (r : Registry σ) (op : Operation σ) : Option (Change σ) :=
  match (op.run r).1 with
  | .ok () => op.change?
  | .error _ => none

end Operation

def applied (regs : List (Registration σ)) (change : Option (Change σ)) : List (Registration σ) :=
  change.elim regs (Change.apply regs)

theorem Makes.step {change : Option (Change σ)} {x : Except Fault Unit × Registry σ × Journal}
    (makes : Makes regs r change x) (h : Coherent regs r) :
    Coherent (applied regs (match x.1 with | .ok () => change | .error _ => none)) x.2.1 := by
  rcases makes with ⟨c, rfl, ok, coherent⟩ | ⟨⟨f, failed⟩, same⟩
  · rw [ok]
    exact coherent
  · rw [failed, same]
    exact h

/-- **Every operation keeps a registry coherent** with the registrations that it changes. -/
theorem Coherent.step (h : Coherent regs r) (op : Operation σ) :
    Coherent (applied regs (op.made r)) (op.run r).2.1 := by
  have reading : ∀ {x : Except Fault Unit × Registry σ × Journal}, Coherent regs x.2.1 →
      Coherent (applied regs (match x.1 with | .ok () => none | .error _ => none)) x.2.1 := by
    intro x coherent
    split <;> exact coherent
  cases op with
  | register marker offer rules => exact (h.register marker offer rules).step h
  | registerMade marker made rules =>
      cases made with
      | error f => exact h
      | ok offer => exact (h.register marker offer rules).step h
  | deregister marker => exact (h.deregister marker).step h
  | ordering => exact reading (x := Operation.run r .ordering) h.order.2
  | markerTypes => exact reading (x := Operation.run r .markerTypes) h.order.2
  | entries =>
      refine reading (x := Operation.run r .entries) ?_
      show Coherent regs r.registrations.2.1
      rw [r.registrations_of_order.2]
      exact h.order.2

/-- The registry after operations, and the changes that they made. -/
def runAll (r : Registry σ) : List (Operation σ) → Registry σ × List (Change σ)
  | [] => (r, [])
  | op :: ops =>
    let (last, changes) := runAll (op.run r).2.1 ops
    (last, (op.made r).toList ++ changes)

def after (ops : List (Operation σ)) : Registry σ := (runAll {} ops).1

/-- The successful changes among operations on an empty registry. -/
def changes (ops : List (Operation σ)) : List (Change σ) := (runAll {} ops).2

theorem Coherent.runAll (h : Coherent regs r) (ops : List (Operation σ)) :
    Coherent ((runAll r ops).2.foldl Change.apply regs) (runAll r ops).1 := by
  induction ops generalizing regs r with
  | nil => exact h
  | cons op ops ih =>
      have rest := ih (h.step op)
      rw [Registry.runAll]
      cases made : op.made r with
      | none =>
          rw [made] at rest
          exact rest
      | some c =>
          rw [made] at rest
          exact rest

/-- The registry is, and lists, what the registrations say. -/
structure Mirrors (regs : List (Registration σ)) (r : Registry σ) : Prop where
  /-- Marker types, handlers and rules are those of the registrations, in their order. -/
  handlers : r.handlers = handlersOf regs
  rules : r.rules = rulesOf regs
  distinct : (serials (markersOf regs)).Nodup
  ordering : r.order.1 = fromScratch regs
  markerTypes : r.markerTypes.1 = (fromScratch regs).map Ordering.order
  /-- The entries are the registrations in the order from scratch. -/
  entries : ∀ o, fromScratch regs = .ok o →
    ∃ rs, r.registrations.1 = .ok rs ∧ markersOf rs = o.order ∧ rs.Perm regs
  refused : ∀ f, fromScratch regs = .error f →
    r.registrations.1 = .error f ∧ ∃ names, f = .ruleCycle names
  /-- Every rule between registered marker types takes effect. -/
  placed : ∀ o, fromScratch regs = .ok o → Ordering.IsOrder (markersOf regs) (rulesOf regs) o.order
  /-- Nothing but a ring of rules stands in the way. -/
  cyclic : (∃ f, fromScratch regs = .error f) ↔ Ordering.Cyclic (markersOf regs) (rulesOf regs)

/-- **After any history, a registry mirrors the replay of its successful changes.** -/
theorem history_mirrored (ops : List (Operation σ)) : Mirrors (replay (changes ops)) (after ops) := by
  have h : Coherent (replay (changes ops)) (after ops) := coherent_nil.runAll ops
  exact
    { handlers := h.handlers
      rules := h.rules
      distinct := h.distinct
      ordering := h.order.1
      markerTypes := h.markerTypes.1
      entries := fun _ made => h.registrations made
      refused := fun _ failed => ⟨h.registrations_error failed, Ordering.ofRules_error failed⟩
      placed := fun _ made => h.isOrder made
      cyclic := by
        rw [fromScratch, Ordering.ofRules_fails_iff, h.distinct_eq] }

/-! ## A ring that is broken -/

namespace Sample

def first : MarkerType := .derive .root 2 "First" (some "sample") none

def second : MarkerType := .derive .root 3 "Second" (some "sample") none

def idle : Handler Unit where
  name := "idle"
  typeName := "function"
  expression := "idle"
  check _ _ c w := (.ok .null, c, w)
  handle _ _ w := (.ok true, w)

/-- Either marker type is to come before the other one, until one of them is gone. -/
def ring : List (Operation Unit) :=
  [.register (.markerType first) (.handler idle) (some [⟨.after, second⟩]), .markerTypes,
    .register (.markerType second) (.handler idle) (some [⟨.after, first⟩]), .markerTypes]

/-- The names that a registry lists, or nothing when its rules are cyclic. -/
def listed (r : Registry Unit) : Option (List String) :=
  match r.markerTypes.1 with
  | .ok ts => some (ts.map MarkerType.name)
  | .error _ => none

example : listed (after ring) = none ∧
    listed (after (ring ++ [.deregister (.markerType first)])) = some ["Second"] ∧
    listed (after (ring ++ [.deregister (.markerType second), .markerTypes,
      .register (.markerType second) (.handler idle) none])) = some ["Second", "First"] := by
  decide +kernel

end Sample

end Marking.Registry
