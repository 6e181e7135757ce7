/-
# Marking.Codebase.Scan -- finding the marked declarations of modules

A scan imports the modules of a scope, and further ones if it is told to, walks
through the packages among them, and collects the declarations of every class that
is bound at the top of a module which defines it.  Of several declarations with one
full name and kind the first is kept, and the result is in the order of names and
kinds.  What was collected for a scope is remembered.

A module that fails while a package is walked is noted and left out.  A package
among them is then imported once more in order to look into it: it is left out if
the failure is an import error, and ends the scan otherwise.
-/
import Marking.Codebase.Loading

set_option autoImplicit false

namespace Marking

namespace ScannedClass

def source : String := "scanning"

def value (c : ScannedClass) : Value := .classRef (some c.module) c.qualname c.markers

def typeDeclarations (c : ScannedClass) : List Declaration :=
  if c.markers.isEmpty then [] else [⟨.type, c.value, "", c.markers⟩]

def isFunction (m : Member) : Bool :=
  m.form = .method || m.form = .staticMethod || m.form = .classMethod

def memberDeclarations (c : ScannedClass) : List Declaration :=
  (c.members.filter fun m => isFunction m && !m.markers.isEmpty).map fun m =>
    ⟨if m.name == "__init__" then .constructor else .method, c.value, m.name, m.markers⟩

/-- The declarations of fields, and a note when the fields cannot be resolved. -/
def fieldDeclarations (c : ScannedClass) : List Declaration × Journal :=
  if c.fields.isEmpty then ([], [])
  else if c.unresolved then
    ([], [.warning source ("Cannot resolve field annotations of " ++ c.qualname ++ " (" ++
      (Fault.unresolvedName "MissingType").message ++ "); field markers ignored")])
  else
    ((c.fields.filter fun f => f.form = .direct && !f.markers.isEmpty).map fun f =>
      ⟨.field, c.value, f.name, f.markers⟩, [])

/-- Every marked declaration made directly on the class. -/
def declarations (c : ScannedClass) : List Declaration × Journal :=
  let (fields, notes) := c.fieldDeclarations
  (c.typeDeclarations ++ c.memberDeclarations ++ fields, notes)

end ScannedClass

structure ModuleScan where
  codebase : Codebase
  /-- Modules to scan in addition to a scope.  A module that is handed over as an object is listed by
  its name, and is among the loaded ones from the start: to load it once more changes nothing. -/
  extra : List String := []
  /-- Packages are walked through. -/
  recursive : Bool := true
  loaded : Loaded := {}
  /-- What was collected, by scope. -/
  found : List (List String × List Declaration) := []

namespace ModuleScan

/-- An action of a scan: its result, the modules imported by then, and its notes. -/
abbrev Step (α : Type) := Except Fault α × Loaded × Journal

def failedNote (name : String) : Record :=
  .error ScannedClass.source
    ("Failed to import " ++ Text.quoted name ++ " while scanning; skipping.")

/-- A step and, unless it fails, another one that goes on from it. -/
def Step.andThen (first : Step (List String)) (next : Loaded → Step (List String)) :
    Step (List String) :=
  match first with
  | (.error f, l, notes) => (.error f, l, notes)
  | (.ok names, l, notes) =>
    let (rest, l, more) := next l
    (rest.map (names ++ ·), l, notes ++ more)

/-- A step for each of several names in turn. -/
def Step.inTurn (act : String → Loaded → Step (List String)) :
    List String → Loaded → Step (List String)
  | [], l => (.ok [], l, [])
  | n :: ns, l => (act n l).andThen (inTurn act ns)

/-- Visits a module, and walks through what is below it if it is a package.  `depth` bounds
the nesting of packages. -/
def visit (c : Codebase) : (depth : Nat) → String → Loaded → Step (List String)
  | 0, _, l => (.ok [], l, [])
  | depth + 1, n, l =>
    let (first, l) := c.load n l
    let own : Step (List String) :=
      match first with
      | .ok () => (.ok [n], l, [])
      | .error _ => (.ok [], l, [failedNote n])
    own.andThen fun l =>
      if c.isPackage n then
        match c.load n l with
        | (.ok (), l) => Step.inTurn (visit c depth) (c.children n) l
        | (.error f, l) => if f.isA .importing then (.ok [], l, []) else (.error f, l, [])
      else (.ok [], l, [])

/-- The modules that a target stands for: itself, and what is found below it. -/
def expand (s : ModuleScan) (target : String) (l : Loaded) : Step (List String) :=
  match s.codebase.load target l with
  | (.error f, l) => (.error f, l, [])
  | (.ok (), l) =>
    Step.andThen (.ok [target], l, []) fun l =>
      if s.recursive && s.codebase.isPackage target then
        Step.inTurn (visit s.codebase (s.codebase.names.length + 1))
          (s.codebase.children target) l
      else (.ok [], l, [])

def expandAll (s : ModuleScan) : List String → Loaded → Step (List String) := Step.inTurn s.expand

/-- The names without repetitions, in rising order. -/
def ordered (names : List String) : List String :=
  (names.foldl (fun kept n => if kept.contains n then kept else kept ++ [n]) []).mergeSort
    fun a b => !Text.textLt b a

/-- The classes that a module defines, by the names they are bound to. -/
def classesOf (l : Loaded) (name : String) : List ScannedClass :=
  ((l.namespaceOf name).filterMap Prod.snd).filter fun c => c.module == name

/-- The full name and the kind of a declaration. -/
def signature (d : Declaration) : UnitKey :=
  match d.qualifiedName with
  | .ok n => ⟨n, d.kind⟩
  | .error _ => ⟨"", d.kind⟩

/-- One declaration for every full name and kind, in the order of these. -/
def canonical (ds : List Declaration) : List Declaration :=
  (ds.foldl
    (fun kept d => if kept.any (fun e => signature e = signature d) then kept else kept ++ [d])
    []).mergeSort fun a b => (signature a).le (signature b)

def collect (s : ModuleScan) (packages : List String) : Step (List Declaration) :=
  match s.expandAll (s.extra ++ packages) s.loaded with
  | (.error f, l, notes) => (.error f, l, notes)
  | (.ok names, l, notes) =>
    let classes := (ordered names).flatMap (classesOf l)
    let found := classes.map ScannedClass.declarations
    (.ok (canonical (found.flatMap Prod.fst)), l, notes ++ found.flatMap Prod.snd)

/-- The declarations of a scope, collected at most once. -/
def declarations (s : ModuleScan) (packages : List String) :
    Except Fault (List Declaration) × ModuleScan × Journal :=
  match s.found.lookup packages with
  | some ds => (.ok ds, s, [])
  | none =>
    match s.collect packages with
    | (.error f, loaded, notes) => (.error f, { s with loaded }, notes)
    | (.ok ds, loaded, notes) =>
      (.ok ds, { s with loaded, found := s.found ++ [(packages, ds)] }, notes)

/-- The declarations of a name of a module: those of a class, and none of anything else. -/
def declarationsOf (s : ModuleScan) (module name : String) :
    Except Fault (List Declaration) × ModuleScan × Journal :=
  match s.codebase.load module s.loaded with
  | (.error f, loaded) => (.error f, { s with loaded }, [])
  | (.ok (), loaded) =>
    let (ds, notes) : Except Fault (List Declaration) × Journal :=
      match s.codebase.member loaded module name with
      | .error f => (.error f, [])
      | .ok none => (.ok [], [])
      | .ok (some c) => (.ok c.declarations.1, c.declarations.2)
    (ds, { s with loaded }, notes)

end ModuleScan

end Marking
