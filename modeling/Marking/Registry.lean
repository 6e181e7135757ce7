/-
# Marking.Registry -- which handler works for which marker

A registry holds handlers by marker type, in the order in which they were
registered, and the ordering rules that came with them.  The ordering is worked out
when it is first asked for and kept until a registration changes.

A registration refuses what is no marker type, what is no handler, and a marker that
has a handler already.  The handler is stored before the rules are looked at; rules
that cannot be listed end the registration at that point, and the marker then has a
handler without rules.
-/
import Marking.Handler
import Marking.Marker.Attachment
import Marking.Marker.Targets
import Marking.Ordering

set_option autoImplicit false

namespace Marking

/-- What is offered as a handler. -/
inductive Offer (σ : Type) where
  | handler (h : Handler σ)
  | other (v : Value)

namespace Offer

variable {σ : Type}

def expression : Offer σ → Except Fault String
  | handler h => .ok h.expression
  | other v => v.expression

end Offer

/-- What is offered as rules. -/
inductive RuleOffer where
  | absent
  | rules (rs : List Rule)
  /-- A value that cannot be listed to its end, and why. -/
  | unlisted (why : Fault)

/-- Handlers and rules by marker type. -/
structure Registry (σ : Type) where
  handlers : List (MarkerType × Handler σ) := []
  rules : List (MarkerType × List Rule) := []
  ordering : Option Ordering := none

namespace Registry

variable {σ : Type}

def source : String := "core.registry"

def lookup {α : Type} (entries : List (MarkerType × α)) (t : MarkerType) : Option α :=
  (entries.find? fun e => e.1 == t).map Prod.snd

def without {α : Type} (entries : List (MarkerType × α)) (t : MarkerType) :
    List (MarkerType × α) :=
  entries.filter fun e => !(e.1 == t)

def handler? (r : Registry σ) (t : MarkerType) : Option (Handler σ) := lookup r.handlers t

def has (r : Registry σ) (t : MarkerType) : Bool := (r.handler? t).isSome

def registered (r : Registry σ) : List MarkerType := r.handlers.map Prod.fst

def size (r : Registry σ) : Nat := r.handlers.length

/-- The handler under any value; values that cannot be keys are refused. -/
def handlerOf? (r : Registry σ) (v : Value) : Except Fault (Option (Handler σ)) :=
  v.requireHashable.map fun () => v.asMarkerType?.bind r.handler?

def contains (r : Registry σ) (v : Value) : Except Fault Bool :=
  (r.handlerOf? v).map Option.isSome

/-- How messages call a value that should be a registered marker type: by its short name, or by
its expression if it has none.  The expression is written in either case. -/
def shownName (v : Value) : Except Fault String :=
  v.expression.bind fun shown => (v.shortName?.getD (.str shown)).expression

def get (r : Registry σ) (v : Value) : Except Fault (Handler σ) :=
  (r.handlerOf? v).bind fun found =>
    match found with
    | some h => .ok h
    | none => .error (.showing (shownName v) .handlerMissing)

/-- The rules of a marker type; none for anything else. -/
def rulesFor (r : Registry σ) (v : Value) : Except Fault (List Rule) :=
  v.requireHashable.map fun () =>
    ((v.asMarkerType?.bind (lookup r.rules)).getD [])

def registeredNote (h : Handler σ) (t : MarkerType) (rules : List Rule) : Record :=
  .debug source ("Registered handler " ++ h.typeName ++ " for @" ++ t.name ++ " (" ++
    toString rules.length ++ " rule(s))")

/-- Stores the rules of a marker type whose handler is stored already. -/
def putRules (r : Registry σ) (t : MarkerType) (h : Handler σ) (rules : RuleOffer) :
    Except Fault Unit × Registry σ × Journal :=
  match rules with
  | .absent =>
    (.ok (), { r with rules := r.rules ++ [(t, [])], ordering := none }, [registeredNote h t []])
  | .rules rs =>
    (.ok (), { r with rules := r.rules ++ [(t, rs)], ordering := none }, [registeredNote h t rs])
  | .unlisted why => (.error why, r, [])

def register (r : Registry σ) (marker : Value) (offer : Offer σ) (rules : RuleOffer) :
    Except Fault Unit × Registry σ × Journal :=
  match marker.asMarkerType? with
  | none => (.error (.showing marker.expression .notMarkerType), r, [])
  | some t =>
    match offer with
    | .other v => (.error (.showing v.expression fun shown => .notHandler shown t.name), r, [])
    | .handler h =>
      if r.has t then (.error (.handlerPresent (Text.quoted t.fullName)), r, [])
      else putRules { r with handlers := r.handlers ++ [(t, h)] } t h rules

/-- Registers the handler that a class makes; when making it fails nothing is registered. -/
def registerMade (r : Registry σ) (marker : Value) (made : Except Fault (Offer σ))
    (rules : RuleOffer) : Except Fault Unit × Registry σ × Journal :=
  match made with
  | .error f => (.error f, r, [])
  | .ok offer => r.register marker offer rules

def deregister (r : Registry σ) (marker : Value) : Except Fault Unit × Registry σ × Journal :=
  match r.handlerOf? marker, marker.asMarkerType? with
  | .error f, _ => (.error f, r, [])
  | .ok (some _), some t =>
    let left := { r with handlers := without r.handlers t }
    match lookup r.rules t with
    | none => (.error (.noSuchUnit t.expression), left, [])
    | some _ =>
      (.ok (), { left with rules := without r.rules t, ordering := none },
        [.debug source ("Deregistered handler for @" ++ t.name)])
  | .ok _, _ => (.error (.showing (shownName marker) .handlerMissing), r, [])

/-- The ordering of the registered marker types, kept once it is worked out. -/
def order (r : Registry σ) : Except Fault Ordering × Registry σ × Journal :=
  match r.ordering with
  | some o => (.ok o, r, [])
  | none =>
    match Ordering.ofRules r.registered r.rules with
    | (.error f, notes) => (.error f, r, notes)
    | (.ok o, notes) => (.ok o, { r with ordering := some o }, notes)

def markerTypes (r : Registry σ) : Except Fault (List MarkerType) × Registry σ × Journal :=
  let (o, r, notes) := r.order
  (o.map Ordering.order, r, notes)

/-- A marker type with its handler and its rules. -/
structure Registration (σ : Type) where
  marker : MarkerType
  handler : Handler σ
  rules : List Rule

def registrationsOf (r : Registry σ) : List MarkerType → Except Fault (List (Registration σ))
  | [] => .ok []
  | t :: ts =>
    match r.handler? t, lookup r.rules t with
    | some handler, some rules =>
      (r.registrationsOf ts).map (⟨t, handler, rules⟩ :: ·)
    | _, _ => .error (.noSuchUnit t.expression)

def registrations (r : Registry σ) :
    Except Fault (List (Registration σ)) × Registry σ × Journal :=
  match r.markerTypes with
  | (.error f, r, notes) => (.error f, r, notes)
  | (.ok ts, r, notes) => (r.registrationsOf ts, r, notes)

def summary (r : Registry σ) : String :=
  "HandlerRegistry(markers=[" ++
    ", ".intercalate (r.registered.map fun t => Text.quoted t.name) ++ "])"

end Registry

end Marking
