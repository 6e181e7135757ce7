/-
# Marking.Description.Answer -- results as documents

A key is written with its kind unless that is the usual one, keys that have no order
of their own in rising order.  A fault is an object of its class, its message and what
else it carries.
-/
import Marking.CommandLine
import Marking.Json.Writer
import Marking.Script

set_option autoImplicit false

namespace Marking.Answer

abbrev Fields := List (String × Json)

def keyJson (k : UnitKey) : Json := .str k.tagged

def keysJson (ks : List UnitKey) : Json := .list (ks.map keyJson)

def sortedJson (ks : List UnitKey) : Json := keysJson (UnitKey.sorted ks)

def keyedJson (ms : List (UnitKey × List UnitKey)) : Json :=
  .list (ms.map fun (k, ks) => .list [keyJson k, sortedJson ks])

/-- What may be missing; null when it is. -/
def optionJson {α : Type} (f : α → Json) (a : Option α) : Json := (a.map f).getD .null

def boolsJson (bs : List Bool) : Json := .list (bs.map .bool)

def namesJson (ts : List MarkerType) : Json := .ofTexts (ts.map MarkerType.name)

def kindJson (k : ElementKind) : Json := .str k.name

/-- The class of a fault, its message and what else it carries. -/
def errorFields (f : Fault) : Fields :=
  let head : Fields := [("error", .str f.errorClass.label)]
  let said : Fields := head ++ [("message", .str f.message)]
  match f with
  | .noSuchFile _ | .malformedDocument => head
  | .injection x => said ++ [("key", optionJson keyJson x.key)]
  | .dependencyCheck _ k cause =>
    said ++ [("key", optionJson keyJson k)] ++
      (match cause with | some c => [("cause", .str c.label)] | none => [])
  | .structural s => said ++ [("subject", .str s.subject)]
  | .cyclic cycles => said ++ [("cycles", .list (cycles.map keysJson))]
  | .ruleCycle ms => said ++ [("markers", .ofTexts ms)]
  | .incomplete _ pending => said ++ [("count", .ofNat (Fault.pendingCount pending))]
  | _ => said

def errorJson (f : Fault) : Json := .object (errorFields f)

/-- A result, or its fault. -/
def exceptJson {α : Type} (f : α → Json) : Except Fault α → Json
  | .ok a => f a
  | .error e => errorJson e

def textJson : Except Fault String → Json := exceptJson .str

def markerJson (m : Marker) : Json := textJson m.expression

def unitJson {α : Type} (item : α → Json) (u : WorkUnit α) : Json :=
  .object [("key", keyJson u.key), ("items", .list (u.items.map item)),
    ("deps", sortedJson u.needs), ("hard", .bool u.hard)]

def delegateJson {σ : Type} (d : Delegate σ) : Json := .str d.text

def failuresJson (fs : List Failure) : Json := .list (fs.map fun f => errorJson (.injection f))

def structuralJson (fs : List StructuralFault) : Json :=
  .list (fs.map fun f => errorJson (.structural f))

/-- Which of several things are equal, row by row. -/
def matrix {α : Type} (eq : α → α → Bool) (xs : List α) : Json :=
  .list (xs.map fun a => boolsJson (xs.map (eq a)))

/-- How many different things there are. -/
def distinctCount {α : Type} (eq : α → α → Bool) (xs : List α) : Nat :=
  (xs.foldl (fun kept x => if kept.any (eq x) then kept else kept ++ [x]) []).length

def declarationJson (ask : List MarkerType) (d : Declaration) : Except Fault Json :=
  let view : View := ⟨d, d.markers.headD default, none⟩
  let committed := (({} : TypeRegistry).getInjector d.owner).map fun r =>
    (view.commit r.1).isCommitted
  d.isTestOnly.map fun testOnly => .object [("str", textJson d.text),
    ("owner_name", textJson d.ownerName), ("owner_key", exceptJson keyJson d.ownerKey),
    ("qualified", textJson d.qualifiedName),
    ("package", exceptJson (optionJson .str) d.package), ("test_only", .bool testOnly),
    ("lookup", .list (ask.map fun t => optionJson markerJson (d.marker? t))),
    ("has", boolsJson (ask.map d.hasMarker)),
    ("view", .object [("kind", kindJson d.kind), ("name", .str d.name),
      ("key", exceptJson keyJson d.ownerKey), ("owner_same", .bool true),
      ("committed", .bool view.isCommitted), ("after", exceptJson .bool committed)])]

def foundJson (d : Declaration) : Json :=
  .object [("decl", textJson d.text), ("package", exceptJson (optionJson .str) d.package),
    ("markers", .list (d.markers.map markerJson)),
    ("key", exceptJson keyJson d.ownerKey), ("test_only", exceptJson .bool d.isTestOnly)]

def reportJson (r : Report) : Json :=
  .object [("report", .ofValue r.toValue), ("missing", keyedJson r.missing),
    ("failures", .list (r.failures.map fun (m, fs) => .list [.str m, failuresJson fs])),
    ("pending", .list (r.pending.map fun (m, ks) => .list [.str m, keysJson ks])),
    ("structural", structuralJson r.structural), ("raise", optionJson errorJson r.incompleteness)]

def scheduleFields {α : Type} (s : Schedule α) : Fields :=
  [("order", keysJson s.keys), ("cycles", .list (s.cycles.map keysJson)),
    ("forced", keysJson s.forced), ("strict", .bool s.strict)]

def planJson {σ : Type} (p : Plan σ) : Json :=
  .object (scheduleFields p.schedule ++ [("missing", keyedJson p.missing),
    ("structural", structuralJson p.structural),
    ("targets", .list (p.stations.map fun s =>
      .list [.str s.entry.name, .list (s.entry.queue.map delegateJson)]))])

def typesJson (r : TypeRegistry) : Except Fault Json := r.labels.map Json.ofTexts

/-- What scripted handlers made, and who made it. -/
def madeJson (s : Script.State) : Json :=
  .list (s.made.map fun (k, who) => .list [.ofValue k, .str who])

def settingsJson (s : Settings) : Json := .ofValue s.toValue

/-- The lines of a text, with single blanks for the gaps in them. -/
def spacedLines (s : String) : List String :=
  (s.toList.splitBy fun a b => !Text.endsLine a && !Text.endsLine b).map fun line =>
    " ".intercalate (Text.words line)

def linesJson (ls : List CommandLine.Line) : Json :=
  .list (ls.flatMap fun l =>
    match l with
    | .row cells => [.ofTexts cells]
    | .text s => ((spacedLines s).filter fun line => !line.isEmpty).map .str)

def fullText (ls : List CommandLine.Line) : String :=
  "\n".intercalate (ls.map fun l =>
    match l with
    | .text s => s
    | .row cells => " ".intercalate cells)

end Marking.Answer
