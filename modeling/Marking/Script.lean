/-
# Marking.Script -- handlers that follow a script

A script says what a handler names as dependencies, under which key it puts its
unit, and how each of its attempts ends.  An option is looked up in the attributes of
the marker first and in the script second, so a declaration can steer its handler.

Attempts are played from a list of outcomes: the first attempt plays the first one,
and the last one is played from then on.  An outcome is any value, which counts as
done when it is true, or a dictionary that says what happens before: a failure, a
fault, a request to the engine, a wait for what others make, or new work.  Lists in
scripts may be any values that a loop can go through; values that cannot be used as the
script uses them are faults where it does.

Scripted handlers keep what they were called for, how often each of them has played,
and the names of what they made; a name is any value that can be a dictionary key.
-/
import Marking.Engine

set_option autoImplicit false

namespace Marking

namespace UnitKey

/-- The name of a key, with its kind when that is not a type. -/
def tagged (k : UnitKey) : String :=
  if k.kind = .type then k.name else k.name ++ "#" ++ k.kind.name

end UnitKey

namespace Script

/-- What scripted handlers keep. -/
structure State where
  calls : List String := []
  /-- How often a player has played. -/
  plays : List (String × Nat) := []
  /-- The names of what was made, each with its maker. -/
  made : List (Value × String) := []

namespace State

def call (s : State) (line : String) : State := { s with calls := s.calls ++ [line] }

def playsOf (s : State) (who : String) : Nat := (s.plays.lookup who).getD 0

def countPlay (s : State) (who : String) : State :=
  { s with plays := (who, s.playsOf who + 1) :: s.plays.filter fun p => p.1 != who }

/-- Notes that something was made; a known name keeps its place. -/
def make (s : State) (who : String) (name : Value) : State :=
  { s with made :=
      if s.made.any (fun m => Value.eq m.1 name) then
        s.made.map fun m => if Value.eq m.1 name then (m.1, who) else m
      else s.made ++ [(name, who)] }

/-- Notes that several things were made, up to the first name that can be no key. -/
def makeAll (who : String) : List Value → State → Except Fault Unit × State
  | [], s => (.ok (), s)
  | name :: names, s =>
    match name.requireHashable with
    | .error f => (.error f, s)
    | .ok () => makeAll who names (s.make who name)

def firstMissing (s : State) : List Value → Except Fault (Option Value)
  | [] => .ok none
  | name :: names =>
    name.requireHashable.bind fun () =>
      if s.made.any fun m => Value.eq m.1 name then firstMissing s names else .ok (some name)

/-- Calls and plays start anew; what was made stays. -/
def rewound (s : State) : State := { s with calls := [], plays := [] }

end State

def member? (v : Value) (name : String) : Option Value :=
  match v with
  | .dict entries => (entries.find? fun e => Value.eq e.1 (.str name)).map Prod.snd
  | _ => none

def required (v : Value) (name : String) : Except Fault Value :=
  match v with
  | .dict _ =>
    match member? v name with
    | some x => .ok x
    | none => .error (.foreign .key (Text.quoted name))
  | .str _ => .error (.foreign .type "string indices must be integers, not 'str'")
  | .list _ | .tuple _ =>
    .error (.foreign .type (v.typeName ++ " indices must be integers or slices, not str"))
  | v => .error (.foreign .type (Text.quoted v.typeName ++ " object is not subscriptable"))

/-- The items that a script lists; a script that lists nothing has none. -/
def itemsOf (v : Option Value) : Except Fault (List Value) :=
  match v with
  | none => .ok []
  | some v => v.items

/-- The text of a fault that is raised with a message and perhaps a key: with a key it is
the expression of the pair. -/
def raisedText (message : Value) (key : Option UnitKey) : Except Fault String :=
  match key with
  | none => message.text
  | some k => (Value.tuple [message, .key k]).expression

/-- The fault of a class by name, as foreign code raises it; an unknown name is a fault
itself, and so is a message that cannot be written. -/
def faultOf (typeName : String) (message : Value) (key : Option UnitKey) : Fault :=
  let raised (error : ForeignError) : Fault := .showing (raisedText message key) (.foreign error)
  match typeName with
  | "InjectionFailure" => .showing message.text fun text => .injection ⟨text, key⟩
  | "DependencyCheckError" => .showing message.text fun text => .ofDependencyCheck text key none
  | "StructuralError" =>
    .showing message.text fun text => .structural ⟨.other, text, (key.map UnitKey.name).getD ""⟩
  | "MarkgenError" => raised .general
  | "ValueError" => raised .value
  | "TypeError" => raised .type
  | "KeyError" =>
    .showing (if key.isSome then raisedText message key else message.expression) (.foreign .key)
  | "LookupError" => raised .lookup
  | "ImportError" => raised .importing
  | "RuntimeError" => raised .runtime
  | _ => .foreign .key (Text.quoted typeName)

def keyOf (v : Value) : Except Fault (Option UnitKey) :=
  match member? v "key" with
  | none | some .null => .ok none
  | some k => (UnitKey.ofValue k).map some

def textOf (v : Value) (name default : String) : Except Fault String :=
  ((member? v name).getD (.str default)).text

/-- The message of an entry; a usual one when there is none. -/
def messageOf (v : Value) : Value := (member? v "message").getD (.str "boom")

def requestOf (name : String) : Engine.Request :=
  match name with
  | "plan" => .plan
  | "reset" => .reset
  | _ => .process

/-- The engine that a script can turn to. -/
inductive Host where
  | absent
  /-- No run of the engine is going on. -/
  | idle
  | running
  deriving DecidableEq, Repr

/-- Whether the engine answers a request. -/
def Host.answer (h : Host) (r : Engine.Request) : Except Fault Unit :=
  match h with
  | absent => .error (.missingAttribute "NoneType" r.name)
  | idle => Engine.guard false r
  | running => Engine.guard true r

/-- The fault that a check is told to raise.  A key that is given has to be one. -/
def raised (v : Value) : Fault :=
  .showing (textOf v "type" "RuntimeError") fun typeName =>
    match member? v "key" with
    | none => faultOf typeName (messageOf v) none
    | some k =>
      match UnitKey.ofValue k with
      | .error f => f
      | .ok key => faultOf typeName (messageOf v) (some key)

/-- The item at a place of a value that has as many items as given; a dictionary is asked
for the place as a key. -/
def itemAt (v : Value) (place : Nat) (items : List Value) : Except Fault Value :=
  match v with
  | .dict entries =>
    match entries.find? fun e => Value.eq e.1 (.int place) with
    | some e => .ok e.2
    | none => .error (.noSuchUnit (toString place))
  | _ => .ok ((items[place]?).getD .null)

/-- The outcome of the `n`-th play, counted from zero. -/
def outcomeAt (outcomes : Option Value) (n : Nat) : Except Fault Value :=
  match outcomes with
  | none => .ok (.bool true)
  | some v =>
    if !v.isTrue then .ok (.bool true)
    else
      match v.items? with
      | none => .error (.noLength v.typeName)
      | some items => itemAt v (min n (items.length - 1)) items

/-- The end of an outcome: its result, and the work that it brings. -/
structure Ending where
  result : Except Fault Value
  spawned : List Value := []

/-- What an outcome comes to. -/
def settle (host : Host) (s : State) (outcome : Value) : Except Fault Ending :=
  match outcome with
  | .dict _ =>
    match member? outcome "fail" with
    | some message =>
      (keyOf outcome).map fun key =>
        ⟨.error (.showing message.text fun text => .injection ⟨text, key⟩), []⟩
    | none =>
      match member? outcome "raise" with
      | some typeName =>
        .ok ⟨.error (.showing typeName.text fun name => faultOf name (messageOf outcome) none), []⟩
      | none => do
        if let some r := member? outcome "reenter" then host.answer (requestOf (← r.text))
        match ← s.firstMissing (← itemsOf (member? outcome "needs")) with
        | some name =>
          let waiting := fun text => Fault.injection ⟨"waiting for " ++ text, none⟩
          return ⟨.error (.showing name.text waiting), []⟩
        | none =>
          return ⟨.ok ((member? outcome "result").getD (.bool true)),
            ← itemsOf (member? outcome "spawn")⟩
  | v => .ok ⟨.ok v, []⟩

def play (host : Host) (who : String) (outcomes : Option Value) (s : State) : Ending × State :=
  match (outcomeAt outcomes (s.playsOf who)).bind (settle host s) with
  | .error f => (⟨.error f, []⟩, s.countPlay who)
  | .ok ending => (ending, s.countPlay who)

/-- Ends a play: when its result is true, the player has made the names that it gives. -/
def conclude (who : String) (gives : Option Value) (result : Except Fault Value) (s : State) :
    Except Fault Bool × State :=
  match result with
  | .error f => (.error f, s)
  | .ok v =>
    if v.isTrue then
      match itemsOf gives with
      | .error f => (.error f, s)
      | .ok names =>
        let (made, s) := s.makeAll who names
        (made.map fun () => true, s)
    else (.ok false, s)

end Script

/-- A script for the handler of one marker. -/
structure Script where
  /-- The name of the marker that the handler was made for. -/
  tag : String
  options : List (String × Value) := []

namespace Script

def option? (s : Script) (m : Marker) (name : String) : Option Value :=
  m.attribute? name <|> s.options.lookup name

def isSet (s : Script) (m : Marker) (name : String) : Bool :=
  ((s.option? m name).map Value.isTrue).getD false

/-- The kind and the name of a declaration, as calls show it. -/
def shown (d : Declaration) : String :=
  match d.text with
  | .ok text => text
  | .error f => f.message

/-- Masquerades as each of several values in turn. -/
def masqueradeAll : List Value → Control → Except Fault Unit × Control
  | [], c => (.ok (), c)
  | v :: vs, c =>
    match c.masquerade v with
    | .error f => (.error f, c)
    | .ok c => masqueradeAll vs c

/-- Names the dependencies of a declaration. -/
def check (s : Script) (host : Host) (v : View) (c : Control) (w : World State) :
    Except Fault Value × Control × World State :=
  let line := "check " ++ s.tag ++ " " ++ shown v.declaration ++ " committed=" ++
    boolText v.isCommitted ++ " marker=" ++ v.marker.type.name
  let w := { w with own := w.own.call line }
  match s.option? v.marker "check_raise" with
  | some (.dict entries) => (.error (raised (.dict entries)), c, w)
  | _ =>
    match if s.isSet v.marker "check_reenter" then host.answer .process else .ok () with
    | .error f => (.error f, c, w)
    | .ok () =>
      match itemsOf (s.option? v.marker "as_") with
      | .error f => (.error f, c, w)
      | .ok keys =>
        match masqueradeAll keys c with
        | (.error f, c) => (.error f, c, w)
        | (.ok (), c) => (.ok ((s.option? v.marker "requires").getD (.list [])), c, w)

def handle (s : Script) (host : Host) (v : View) (w : World State) :
    Except Fault Bool × World State :=
  let bound := v.injector.bind w.types.at?
  let provided := (bound.map Injector.provided).getD false
  let key := (bound.map fun i => i.key.tagged).getD ""
  let line := "handle " ++ s.tag ++ " " ++ shown v.declaration ++ " committed=" ++
    boolText v.isCommitted ++ " provided=" ++ boolText provided ++ " key=" ++ key
  let who := s.tag ++ " " ++ shown v.declaration
  let (ending, own) := play host who (s.option? v.marker "outcomes") (w.own.call line)
  let (result, own) := conclude who (s.option? v.marker "gives") ending.result own
  let w := { w with own }
  match result, v.injector with
  | .ok done, some injector =>
    if s.isSet v.marker "provide" then
      (.ok done, { w with types := w.types.markProvided injector })
    else (.ok done, w)
  | result, _ => (result, w)

/-- How a scripted handler is built. -/
inductive Form where
  /-- A handler of its own type. -/
  | own
  /-- Two functions. -/
  | functions
  /-- One function; nothing is asked for before. -/
  | single
  deriving DecidableEq, Repr

/-- The handler that follows a script. -/
def handler (s : Script) (form : Form) (name : String) (host : Host) : Handler State where
  name := name
  typeName := if form = .own then "ScriptHandler" else "FunctionHandler"
  expression := if form = .own then "<script>" else "FunctionHandler(" ++ name ++ ")"
  check := fun _ v c w =>
    if form = .single then (.ok (.tuple []), c, w) else s.check host v c w
  handle := fun _ v w => s.handle host v w

end Script

end Marking
