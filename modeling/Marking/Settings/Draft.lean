/-
# Marking.Settings.Draft -- settings that were changed by hand

A change by hand puts a value in the place of a setting as it is: only the number of
rounds is compared with one.  So a draft holds values.  It equals settings that were
read when its values equal theirs, and it can be written out when its packages can be
listed and its merge policy is one.
-/
import Marking.Marker.Attachment
import Marking.Settings.Document

set_option autoImplicit false

namespace Marking.Settings

/-- Settings whose values need not be of the proper types. -/
structure Draft where
  packages : Value
  testMode : Value
  mergePolicy : Value
  strictOrder : Value
  maxRounds : Value
  handlerGroup : Value

namespace Draft

def ofSettings (s : Settings) : Draft where
  packages := .tuple (s.packages.map .str)
  testMode := (s.testMode.map Value.bool).getD .null
  mergePolicy := .policy s.mergePolicy
  strictOrder := .bool s.strictOrder
  maxRounds := .int s.maxRounds
  handlerGroup := .str s.handlerGroup

instance : Inhabited Draft := ⟨ofSettings {}⟩

/-- All values are equal. -/
def eq (a b : Draft) : Bool :=
  Value.eq a.packages b.packages && Value.eq a.testMode b.testMode &&
    Value.eq a.mergePolicy b.mergePolicy && Value.eq a.strictOrder b.strictOrder &&
    Value.eq a.maxRounds b.maxRounds && Value.eq a.handlerGroup b.handlerGroup

def packageList (d : Draft) : Except Fault Value :=
  match d.packages.items? with
  | some vs => .ok (.list vs)
  | none => .error (.notIterable d.packages.typeName)

/-- The word for the merge policy, which anything with a value of its own can stand in for. -/
def policyWord (d : Draft) : Except Fault Value :=
  match d.mergePolicy with
  | .policy p => .ok (.str p.word)
  | .kind k => .ok (.str k.word)
  | .marker m => m.member "value"
  | v => .error (.missingAttribute v.typeName "value")

def toValue (d : Draft) : Except Fault Value := do
  let packages ← d.packageList
  let policy ← d.policyWord
  .ok (.dict
    [(.str "packages", packages), (.str "test_mode", d.testMode), (.str "merge_policy", policy),
     (.str "strict_order", d.strictOrder), (.str "max_rounds", d.maxRounds),
     (.str "handler_group", d.handlerGroup)])

def write (d : Draft) : Except Fault String := d.toValue.map fun v => Yaml.write (Json.ofValue v)

/-- Refuses a draft without a round. -/
def checked (d : Draft) : Except Fault Draft :=
  match Value.lt? d.maxRounds (.int 1) with
  | .error f => .error f
  | .ok true => .error (.showing d.maxRounds.text .tooFewRounds)
  | .ok false => .ok d

/-- Puts a value in the place of a setting. -/
def set (d : Draft) (name : String) (v : Value) : Except Fault Draft :=
  match name with
  | "packages" => .ok { d with packages := v }
  | "test_mode" => .ok { d with testMode := v }
  | "merge_policy" => .ok { d with mergePolicy := v }
  | "strict_order" => .ok { d with strictOrder := v }
  | "max_rounds" => .ok { d with maxRounds := v }
  | "handler_group" => .ok { d with handlerGroup := v }
  | name => .error (.unexpectedSetting name)

/-- The draft with changes by the names of the settings; a null changes nothing.  The name
of the draft itself is taken. -/
def changed (d : Draft) (changes : List (String × Value)) : Except Fault Draft := do
  if (changes.lookup "self").isSome then throw .settingsGivenTwice
  let changes := changes.filter fun e => match e.2 with
    | .null => false
    | _ => true
  let d ← changes.foldlM (fun d e => d.set e.1 e.2) d
  d.checked

end Draft

end Marking.Settings
