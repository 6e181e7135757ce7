/-
# Marking.Delegate -- one piece of work for a declaration and a marker

A delegate joins a declaration, a marker on it, and the handler of the marker.  It
belongs to an entry, asks the handler once for what must come before it, and lets
the handler work.  Two delegates are equal when their declarations have one owner.
-/
import Marking.Entry
import Marking.Handler

set_option autoImplicit false

namespace Marking

/-- A piece of work. -/
structure Delegate (σ : Type) where
  /-- Tells delegates apart. -/
  serial : Nat
  /-- The position of its entry. -/
  entry : Nat
  markerName : String
  handler : Handler σ
  declaration : Declaration
  marker : Marker
  /-- The key of the owner. -/
  key : UnitKey
  control : Control
  /-- What must come before it, once that is known. -/
  needs : Option (List UnitKey) := none

namespace Delegate

variable {σ : Type}

def source : String := "core.delegate"

instance : Work (Delegate σ) := ⟨Delegate.serial, Delegate.key⟩

/-- The key of the unit that the delegate joins. -/
def unitKey (d : Delegate σ) : UnitKey := d.control.key

/-- The full name of the marked element. -/
def subject (d : Delegate σ) : String :=
  if d.declaration.kind = .type then d.key.name else d.key.name ++ "." ++ d.declaration.name

def text (d : Delegate σ) : String := "@" ++ d.markerName ++ " " ++ d.subject

def expression (d : Delegate σ) : String := "ProcessingDelegate(" ++ d.text ++ ")"

/-- What a handler sees before there is an injector. -/
def view (d : Delegate σ) : View := ⟨d.declaration, d.marker, none⟩

/-- The fault of a failed check: a fault of the check itself gets the key of the
owner if it has none, every other fault is wrapped. -/
def checkFault (d : Delegate σ) (f : Fault) : Fault :=
  match f with
  | .dependencyCheck text key cause => .dependencyCheck text (key <|> some d.key) cause
  | f => .ofDependencyCheck
      ("@" ++ d.markerName ++ " handler failed to check dependencies: " ++ f.message)
      (some d.key) (some f.errorClass)

/-- What must come before the delegate, asked for at most once.  Another key that
the handler chose stays chosen, also when the check fails. -/
def required (ctx : Context) (d : Delegate σ) (w : World σ) :
    Except Fault (List UnitKey) × Delegate σ × World σ :=
  match d.needs with
  | some ks => (.ok ks, d, w)
  | none =>
    let (answer, control, w) := d.handler.check ctx d.view d.control w
    let d := { d with control }
    match answer.bind Value.dependencies with
    | .error f => (.error (d.checkFault f), d, w)
    | .ok ks =>
      (.ok ks, { d with needs := some ks },
        w.note [.debug source (d.text ++ " requires [" ++ UnitKey.listing ks ++ "]")])

/-- Lets the handler work on a view bound to the injector of the owner. -/
def process (ctx : Context) (d : Delegate σ) (w : World σ) : Except Fault Bool × World σ :=
  match w.addType d.declaration.owner with
  | (.error f, w) => (.error f, w)
  | (.ok (), w) =>
    match w.getInjector d.declaration.owner with
    | (.error f, w) => (.error f, w)
    | (.ok injector, w) => d.handler.handle ctx (d.view.commit injector) w

def eq (a b : Delegate σ) : Bool := a.key == b.key

end Delegate

end Marking
