/-
# Marking.Codebase.Loading -- importing modules

To import a module is to import the modules above it and then to run its body, once;
what was imported stays imported.  A module that fails is not kept and is tried again
at the next import.  A module that is still being imported can be imported again from
within: it then has the names it has got so far.

Annotations with equal markers are one annotation, made where its markers stood first.

A module that was imported is a name of the module above it from then on, and stays one
for as long as that module is there: when the module above fails and is tried again, it
begins without names.

`loadOne` nests as deep as modules import each other.  A nested import that runs a body
has found a module that is not there yet, so the number of modules that can be found
bounds the depth.
-/
import Marking.Codebase

set_option autoImplicit false

namespace Marking

/-- The names of a module and the classes they stand for, in order of first use; nothing
for a name that stands for anything else. -/
abbrev Namespace := List (String × Option ScannedClass)

namespace Namespace

/-- Gives a name a class, or something else; a known name keeps its place. -/
def bind (ns : Namespace) (name : String) (bound : Option ScannedClass) : Namespace :=
  if ns.any (fun b => b.1 == name) then ns.map fun b => if b.1 == name then (name, bound) else b
  else ns ++ [(name, bound)]

/-- A definition when the names of its module are known. -/
def define (ns : Namespace) (c : ClassSpec) : ScannedClass where
  module := c.module
  qualname := c.qualname
  markers := c.markers
  members := c.members
  fields := c.fields
  unresolved := c.fields.any (fun f => f.form = .unresolvable) ||
    c.bases.any fun b => ((ns.lookup b).join.map ScannedClass.unresolved).getD false

def defineAll (ns : Namespace) (cs : List ClassSpec) : Namespace :=
  cs.foldl (fun ns c => ns.bind c.name (ns.define c)) ns

/-- Gives what has a name further names. -/
def aliasAll (ns : Namespace) (names : List (String × String)) : Namespace :=
  names.foldl
    (fun ns (new, existing) =>
      match ns.lookup existing with
      | some bound => ns.bind new bound
      | none => ns)
    ns

end Namespace

/-- Equal markers in the same order. -/
def sameMarkers (as bs : List Marker) : Bool :=
  as.length == bs.length && (as.zip bs).all fun (a, b) => Marker.eq a b

/-- A field with the markers of an equal annotation among the known ones, and the known
annotations with its own. -/
def Field.share (known : List (List Marker)) (f : Field) : Field × List (List Marker) :=
  if f.markers.isEmpty || f.form = .unresolvable then (f, known)
  else
    match known.find? (sameMarkers f.markers) with
    | some markers => ({ f with markers }, known)
    | none => (f, known ++ [f.markers])

/-- Fields that share equal annotations. -/
def Field.shareAll (known : List (List Marker)) : List Field → List Field × List (List Marker)
  | [] => ([], known)
  | f :: fs =>
    let (f, known) := f.share known
    let (fs, known) := shareAll known fs
    (f :: fs, known)

/-- Classes whose fields share equal annotations. -/
def ClassSpec.shareAll (known : List (List Marker)) :
    List ClassSpec → List ClassSpec × List (List Marker)
  | [] => ([], known)
  | c :: cs =>
    let (fields, known) := Field.shareAll known c.fields
    let (cs, known) := shareAll known cs
    ({ c with fields } :: cs, known)

/-- The modules that are imported or being imported. -/
structure Loaded where
  /-- The modules with their names. -/
  modules : List (String × Namespace) := []
  /-- The modules whose bodies are running. -/
  running : List String := []
  /-- The markers of the annotations made so far. -/
  annotations : List (List Marker) := []

namespace Loaded

def namespaceOf (l : Loaded) (name : String) : Namespace := (l.modules.lookup name).getD []

def has (l : Loaded) (name : String) : Bool := l.modules.any fun m => m.1 == name

def put (l : Loaded) (name : String) (ns : Namespace) : Loaded :=
  { l with modules :=
      if l.has name then l.modules.map fun m => if m.1 == name then (name, ns) else m
      else l.modules ++ [(name, ns)] }

def begin (l : Loaded) (name : String) : Loaded :=
  { l.put name [] with running := name :: l.running }

/-- The body of a module has run, and defined classes and further names. -/
def complete (l : Loaded) (m : ModuleSpec) : Loaded :=
  let (classes, annotations) := ClassSpec.shareAll l.annotations m.classes
  let ns := ((l.namespaceOf m.name).defineAll classes).aliasAll m.aliases
  { l.put m.name ns with running := l.running.erase m.name, annotations }

/-- A module is a name of the module above it, from the end of its import on. -/
def bindBelow (l : Loaded) (name : String) : Loaded :=
  let parent := Text.parentName name
  if !l.has parent then l
  else l.put parent ((l.namespaceOf parent).bind (Text.lastComponent name) none)

/-- Forgets a module that failed. -/
def drop (l : Loaded) (name : String) : Loaded :=
  { l with modules := l.modules.filter fun m => m.1 != name, running := l.running.erase name }

end Loaded

namespace Codebase

/-- Names that every module has. -/
def usualNames : List String :=
  ["__name__", "__doc__", "__package__", "__loader__", "__spec__", "__file__", "__builtins__",
   "__dict__", "__class__"]

/-- A module has the name without giving it to anything: one of the usual names, or any
name if the module is from elsewhere. -/
def hasOther (c : Codebase) (source name : String) : Bool :=
  usualNames.contains name ||
    (!c.names.contains source && c.others.any fun m => m.name == source)

/-- What a name of an imported module stands for: a class, or something else. -/
def member (c : Codebase) (l : Loaded) (source name : String) :
    Except Fault (Option ScannedClass) :=
  match (l.namespaceOf source).lookup name with
  | some bound => .ok bound
  | none =>
    if c.hasOther source name then .ok none
    else .error (.missingName source name (l.running.contains source))

/-- Takes a name from an imported module into the module `into`. -/
def take (c : Codebase) (into source name : String) (l : Loaded) : Except Fault Unit × Loaded :=
  match c.member l source name with
  | .ok bound => (.ok (), l.put into ((l.namespaceOf into).bind name bound))
  | .error f => (.error f, l)

/-- The fault of a name that is no module: what lies above it may be no package. -/
def missing (c : Codebase) (name : String) : Fault :=
  let parent := Text.parentName name
  if parent != name && (c.find? parent).isSome && !c.isPackage parent then
    .notAPackage name parent
  else .noSuchModule name

/-- Acts on the items of a list in turn, up to the first failure. -/
def inTurn {α : Type} (act : α → Loaded → Except Fault Unit × Loaded) :
    List α → Loaded → Except Fault Unit × Loaded
  | [], l => (.ok (), l)
  | x :: xs, l =>
    match act x l with
    | (.error f, l) => (.error f, l)
    | (.ok (), l) => inTurn act xs l

/-- Takes a name from a module that is imported first, with those above it. -/
def importAndTake (c : Codebase) (importOne : String → Loaded → Except Fault Unit × Loaded)
    (into : String) (taken : String × String) (l : Loaded) : Except Fault Unit × Loaded :=
  match inTurn importOne (ancestry taken.1) l with
  | (.error f, l) => (.error f, l)
  | (.ok (), l) => c.take into taken.1 taken.2 l

/-- Imports a module when those above it have been imported: runs its body unless it is there. -/
def loadOne (c : Codebase) : (fuel : Nat) → String → Loaded → Except Fault Unit × Loaded
  | 0, _, l => (.ok (), l)
  | fuel + 1, n, l =>
    if l.has n then (.ok (), l)
    else
      match c.find? n with
      | none => (.error (c.missing n), l)
      | some m =>
        match m.raises with
        | some f => (.error f, l)
        | none =>
          match inTurn (c.importAndTake (c.loadOne fuel) n) m.imports (l.begin n) with
          | (.error f, l) => (.error f, l.drop n)
          | (.ok (), l) => (.ok (), (l.complete m).bindBelow n)

/-- The names of the modules that can be found. -/
def known (c : Codebase) : List String := c.names ++ c.others.map ModuleSpec.name

/-- Imports a module by its full name. -/
def load (c : Codebase) (name : String) (l : Loaded) : Except Fault Unit × Loaded :=
  if name.isEmpty then (.error .emptyModuleName, l)
  else if Text.startsWith "." name then (.error (.relativeModuleName name), l)
  else inTurn (c.loadOne (c.known.length + 1)) (ancestry name) l

end Codebase

end Marking
