/-
# Marking.Settings -- the settings of a run

Settings are read from a dictionary in which every entry may be left out
(`Settings.ofValue`), and written as one (`Settings.toValue`).  Values that mean the
same are accepted: one package instead of a list, a number written as a text, any
value where only its truth counts.  Everything is checked in a fixed order, so that
of two mistakes the same one is always reported.

A `Context` is what a run takes from its settings: the packages to search, and
whether declarations for tests take part.  Where the settings leave that open, the
environment decides.
-/
import Marking.UnitTable
import Marking.Value.Integer

set_option autoImplicit false

namespace Marking

structure Settings where
  packages : List String := []
  /-- Left open, the environment decides. -/
  testMode : Option Bool := none
  mergePolicy : MergePolicy := .union
  strictOrder : Bool := false
  /-- At least one. -/
  maxRounds : Int := 100
  handlerGroup : String := "markgen.handlers"
  deriving DecidableEq, Repr

namespace Settings

def names : List String :=
  ["packages", "test_mode", "merge_policy", "strict_order", "max_rounds", "handler_group"]

/-- Refuses settings without a round. -/
def checked (s : Settings) : Except Fault Settings :=
  if s.maxRounds < 1 then
    .error (.showing (Value.int s.maxRounds).text .tooFewRounds)
  else .ok s

/-- Puts a value into a rising list; refused when two values have no order. -/
def insertValue (v : Value) : List Value → Except Fault (List Value)
  | [] => .ok [v]
  | w :: ws =>
    match Value.lt? v w with
    | .error f => .error f
    | .ok true => .ok (v :: w :: ws)
    | .ok false => (insertValue v ws).map (w :: ·)

def sortValues : List Value → Except Fault (List Value)
  | [] => .ok []
  | v :: vs => (sortValues vs).bind (insertValue v)

/-- The texts among the values, up to the first value that is none. -/
def textsOf : List Value → Except Fault (List String)
  | [] => .ok []
  | .str s :: vs => (textsOf vs).map (s :: ·)
  | v :: _ => .error (.settingNameNotText v.typeName)

/-- The keys that name no entry. -/
def unknownKeys (entries : List (Value × Value)) : List Value :=
  (entries.map Prod.fst).filter fun k =>
    match k with
    | .str s => !names.contains s
    | _ => true

/-- Refuses keys that name no entry. -/
def requireKnown (entries : List (Value × Value)) : Except Fault Unit :=
  match unknownKeys entries with
  | [] => .ok ()
  | ks => (sortValues ks.reverse).bind fun sorted =>
    (textsOf sorted).bind fun texts => .error (.unknownSettings texts)

def valueOf? (entries : List (Value × Value)) (name : String) : Option Value :=
  (entries.find? fun e => Value.eq e.1 (.str name)).map Prod.snd

def packagesOf : Option Value → Except Fault (List Value)
  | none => .ok []
  | some (.str s) => .ok [.str s]
  | some (.list vs) | some (.tuple vs) => .ok vs
  | some _ => .error .packagesShape

/-- The fault of a value that is no merge policy.  It is written on the way to that, and if it
cannot be, only the fault of a value stands for a wrong choice. -/
def notPolicy (v : Value) : Fault :=
  match v.expression with
  | .ok _ => .policyChoice
  | .error f => if f.isA .value then .policyChoice else f

/-- The merge policy, itself or by its word. -/
def policyOf : Option Value → Except Fault MergePolicy
  | none => .ok .union
  | some (.policy p) => .ok p
  | some (.str s) =>
    match MergePolicy.ofWord? s with
    | some p => .ok p
    | none => .error .policyChoice
  | some v => .error (notPolicy v)

/-- The test mode, which may be left open. -/
def testModeOf : Option Value → Except Fault (Option Bool)
  | none | some .null => .ok none
  | some (.bool b) => .ok (some b)
  | some _ => .error .testModeShape

/-- The number of rounds. -/
def roundsOf : Option Value → Except Fault Int
  | none => .ok 100
  | some v => v.integer

def groupOf : Option Value → Except Fault String
  | none => .ok ({} : Settings).handlerGroup
  | some v => v.text

/-- The settings in the entries of a dictionary.  The shapes are checked first; then the
values are read from the first to the last. -/
def ofEntries (entries : List (Value × Value)) : Except Fault Settings := do
  requireKnown entries
  let packages ← packagesOf (valueOf? entries "packages")
  let mergePolicy ← policyOf (valueOf? entries "merge_policy")
  let testMode ← testModeOf (valueOf? entries "test_mode")
  let packages ← packages.mapM Value.text
  let maxRounds ← roundsOf (valueOf? entries "max_rounds")
  let handlerGroup ← groupOf (valueOf? entries "handler_group")
  checked
    { packages, testMode, mergePolicy, maxRounds, handlerGroup
      strictOrder := ((valueOf? entries "strict_order").map Value.isTrue).getD false }

/-- The two parts of an item that stands for an entry of a dictionary. -/
def pairOf (position : Nat) (item : Value) : Except Fault (Value × Value) :=
  match item.items? with
  | none => .error (.foreign .type ("cannot convert dictionary update sequence element #" ++
      toString position ++ " to a sequence"))
  | some [k, v] => k.requireHashable.map fun () => (k, v)
  | some vs => .error (.foreign .value ("dictionary update sequence element #" ++
      toString position ++ " has length " ++ toString vs.length ++ "; 2 is required"))

/-- The entries of a list of pairs, put behind the known ones. -/
def pairsOf : (position : Nat) → (known : List (Value × Value)) → List Value →
    Except Fault (List (Value × Value))
  | _, known, [] => .ok known
  | i, known, v :: vs =>
    (pairOf i v).bind fun e => pairsOf (i + 1) (Value.putEntry known e.1 e.2) vs

/-- The entries that a value stands for: none if it is empty. -/
def entriesOf (v : Value) : Except Fault (List (Value × Value)) :=
  if !v.isTrue then .ok []
  else
    match v with
    | .dict entries => .ok entries
    | v =>
      match v.items? with
      | some vs => pairsOf 0 [] vs
      | none => .error (.notIterable v.typeName)

def ofValue (v : Value) : Except Fault Settings := (entriesOf v).bind ofEntries

def toEntries (s : Settings) : List (Value × Value) :=
  [(.str "packages", .list (s.packages.map .str)),
   (.str "test_mode", match s.testMode with | none => .null | some b => .bool b),
   (.str "merge_policy", .str s.mergePolicy.word),
   (.str "strict_order", .bool s.strictOrder),
   (.str "max_rounds", .int s.maxRounds),
   (.str "handler_group", .str s.handlerGroup)]

def toValue (s : Settings) : Value := .dict s.toEntries

/-- Changes to settings; what is left out stays. -/
structure Overrides where
  packages : Option (List String) := none
  testMode : Option Bool := none
  mergePolicy : Option MergePolicy := none
  strictOrder : Option Bool := none
  maxRounds : Option Int := none
  handlerGroup : Option String := none
  deriving DecidableEq, Repr

/-- The settings with every given change. -/
def withOverrides (s : Settings) (o : Overrides) : Except Fault Settings :=
  checked
    { packages := o.packages.getD s.packages
      testMode := o.testMode <|> s.testMode
      mergePolicy := o.mergePolicy.getD s.mergePolicy
      strictOrder := o.strictOrder.getD s.strictOrder
      maxRounds := o.maxRounds.getD s.maxRounds
      handlerGroup := o.handlerGroup.getD s.handlerGroup }

end Settings

/-- The environment's word on test mode is one of those that mean yes. -/
def isTestMode (word : Option String) : Bool :=
  ["1", "true", "yes", "on"].contains (Text.lower (Text.strip (word.getD "")))

/-- The scope of a run. -/
structure Context where
  packages : List String := []
  testMode : Bool := false
  deriving DecidableEq, Repr

namespace Context

/-- A context for packages; an open test mode is settled by the environment. -/
def ofPackages (environment : Option String) (packages : List String)
    (testMode : Option Bool) : Context :=
  ⟨packages, testMode.getD (isTestMode environment)⟩

/-- The context that settings describe. -/
def ofSettings (environment : Option String) (s : Settings) : Context :=
  ofPackages environment s.packages s.testMode

end Context

end Marking
