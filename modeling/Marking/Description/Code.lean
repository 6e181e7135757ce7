/-
# Marking.Description.Code -- codebases and published handlers from documents

A document lists modules with what their bodies do, and the objects that packages
publish.  Loading a published object may fail; it may be any value, or describe a
handler for a marker.
-/
import Marking.Codebase.Scan
import Marking.Description

set_option autoImplicit false

namespace Marking.Description

def memberForm (name : String) : MemberForm :=
  match name with
  | "static" => .staticMethod
  | "class" => .classMethod
  | "property" => .property
  | "value" => .value
  | "callable" => .callable
  | _ => .method

def member (j : Json) : Described Member := do
  return ⟨(j.field "name").text, memberForm (j.field "form").text,
    ← markers (j.field "markers").items⟩

def fieldForm (name : String) : FieldForm :=
  match name with
  | "classvar" | "optional" => .wrapped
  | "unresolvable" => .unresolvable
  | _ => .direct

def field (j : Json) : Described Field := do
  return ⟨(j.field "name").text, fieldForm (j.field "form").text,
    ← markers (j.field "markers").items⟩

/-- Members by name: a repeated name keeps its place and takes the last definition. -/
def membersByName (ms : List Member) : List Member :=
  ((byName (ms.map fun m => (m.name, m))).map Prod.snd)

def fieldsByName (fs : List Field) : List Field :=
  ((byName (fs.map fun f => (f.name, f))).map Prod.snd)

def classSpec (module : String) (j : Json) : Described ClassSpec := do
  let name := (j.field "name").text
  let markers ← markers (j.field "markers").items
  let members ← (j.field "members").items.mapM member
  let fields ← (j.field "fields").items.mapM field
  return {
    name
    qualname := (textUnder j "qualname").getD name
    module := (textUnder j "module").getD module
    bases := (j.field "bases").texts
    markers
    members := membersByName members
    fields := fieldsByName fields }

def textPairs (j : Json) : List (String × String) :=
  j.items.filterMap fun p =>
    match p with
    | .list [.str a, .str b] => some (a, b)
    | _ => none

def moduleSpec (j : Json) : Described ModuleSpec := do
  let name := (j.field "module").text
  let classes ← (j.field "classes").items.mapM (classSpec name)
  return {
    name
    isPackage := (j.field "package").truth?.getD false
    raises := (textUnder j "raises").map fun t => Script.faultOf t (.str "cannot import me") none
    imports := textPairs (j.field "imports")
    classes
    aliases := textPairs (j.field "aliases") }

/-- Modules that are there without being described, and those of them that are packages. -/
def standing : List (String × Bool) :=
  [("abc", false), ("builtins", false), ("collections", true), ("collections.abc", false),
   ("copy", false), ("dataclasses", false), ("datetime", false), ("enum", false),
   ("functools", false), ("importlib", true), ("inspect", false), ("io", false),
   ("itertools", false), ("json", true), ("logging", true), ("math", false), ("os", false),
   ("os.path", false), ("pathlib", false), ("random", false), ("re", true), ("string", false),
   ("sys", false), ("time", false), ("types", false), ("typing", false), ("markgen", true),
   ("markgen.config", false), ("markgen.scanning", false), ("markgen.core", true),
   ("markgen.core.markers", false), ("markgen.cli", true)]

def codebase (j : Json) : Described Codebase := do
  return ⟨← j.items.mapM moduleSpec, standing.map fun (name, isPackage) => { name, isPackage }⟩

/-- The name of a marker type, for the handler that is made for it. -/
def tagOf (v : Value) : Described String := StateT.lift (v.shortName?.getD v).text

abbrev Handlers := List (String × Handler Script.State)

/-- What is offered as a handler: a known one by name, a scripted one, or any value.
Where handlers are known by name, only a known name is one, and no script is. -/
def handlerOffer (known : Option Handlers) (tag : String) (j : Json) :
    Described (Except Fault (Offer Script.State)) := do
  match j, known with
  | .str name, some known =>
    match known.lookup name with
    | some h => return .ok (.handler h)
    | none => return .error (.foreign .key (Text.quoted name))
  | .object _, known =>
    match tagged j, known with
    | some _, _ => return .ok (.other (← value j))
    | none, none => return .ok (.handler (← scriptedHandler .absent tag j))
    | none, some _ => return .error (.unhashable "dict")
  | j, _ => return .ok (.other (← value j))

def entryPoint (known : Option Handlers) (j : Json) :
    Described (EntryPoint Script.State) := do
  let name := (j.field "name").text
  let group := (textUnder j "group").getD ({} : Settings).handlerGroup
  match textUnder j "raises" with
  | some t => return ⟨name, group, .error (Script.faultOf t (.str "cannot load") none)⟩
  | none =>
    match j.field? "value" with
    | some v => return ⟨name, group, .ok (Registry.publishedBy (← value v))⟩
    | none =>
      let marker ← markerOrValue (j.field "marker")
      let handler ← handlerOffer known (← tagOf marker) (j.field "handler")
      let rules ← ruleOffer (j.field "rules")
      return ⟨name, group, do return ⟨marker, ← handler, ← rules⟩⟩

end Marking.Description
