/-
# Marking.Codebase -- modules and the classes they define

A codebase is a list of modules with dotted names.  A module that is listed, or that
lies above a listed one, can be imported.  The body of a module takes names from
other modules, defines classes and gives classes further names.

A class has members and fields with markers on them.  The fields of a class are
resolved together with those of the classes above it, so one field that cannot be
resolved spoils them all.
-/
import Marking.Scope

set_option autoImplicit false

namespace Marking

/-- How a member of a class is defined. -/
inductive MemberForm where
  | method
  | staticMethod
  | classMethod
  | property
  /-- A plain value. -/
  | value
  /-- An object that can be called but is no function. -/
  | callable
  deriving DecidableEq, Repr

structure Member where
  name : String
  form : MemberForm := .method
  markers : List Marker := []

/-- How a field of a class is annotated. -/
inductive FieldForm where
  /-- The markers stand on the annotation itself. -/
  | direct
  /-- The annotation stands inside another one, which hides its markers. -/
  | wrapped
  /-- The annotation names something that does not exist. -/
  | unresolvable
  deriving DecidableEq, Repr

structure Field where
  name : String
  form : FieldForm := .direct
  markers : List Marker := []

/-- The definition of a class in the body of a module. -/
structure ClassSpec where
  name : String
  qualname : String
  /-- The module that the class says it belongs to. -/
  module : String
  /-- Names that the module has at this point. -/
  bases : List String := []
  markers : List Marker := []
  members : List Member := []
  fields : List Field := []

structure ModuleSpec where
  name : String
  isPackage : Bool := false
  /-- Importing the module fails. -/
  raises : Option Fault := none
  /-- Modules and the names taken from them. -/
  imports : List (String × String) := []
  classes : List ClassSpec := []
  /-- New names and the names they stand for. -/
  aliases : List (String × String) := []

/-- A class once its module has defined it. -/
structure ScannedClass where
  module : String
  qualname : String
  markers : List Marker
  members : List Member
  fields : List Field
  /-- Some field of the class or of a class above it cannot be resolved. -/
  unresolved : Bool

/-- The modules of the scanned code. -/
structure Codebase where
  modules : List ModuleSpec := []
  /-- Modules from elsewhere, with names of any kind but nothing that a scan looks for. -/
  others : List ModuleSpec := []

namespace Codebase

/-- The dotted names above a dotted name, itself included, the shortest first. -/
def ancestry (name : String) : List String :=
  let parts := Text.components name
  (List.range parts.length).map fun i => ".".intercalate (parts.take (i + 1))

/-- The names that can be imported, each once. -/
def names (c : Codebase) : List String :=
  (c.modules.flatMap fun m => ancestry m.name).foldl
    (fun kept n => if kept.contains n then kept else kept ++ [n]) []

/-- The definition of a module, the last one if it is listed again; the modules above
listed ones are empty packages unless they are listed. -/
def find? (c : Codebase) (name : String) : Option ModuleSpec :=
  match c.modules.reverse.find? (fun m => m.name == name) with
  | some m => some m
  | none =>
    if c.names.contains name then some { name, isPackage := true }
    else c.others.find? fun m => m.name == name

/-- The module has content of its own kind below it. -/
def isPackage (c : Codebase) (name : String) : Bool :=
  ((c.find? name).map ModuleSpec.isPackage).getD false ||
    c.names.any fun n => n != name && isWithin n name

/-- The name of the folder or the file in which a module stands. -/
def fileName (c : Codebase) (name : String) : String :=
  if c.isPackage name then name else name ++ ".py"

/-- The modules directly below a package, in the order of their files. -/
def children (c : Codebase) (name : String) : List String :=
  (c.names.filter fun n => Text.parentName n == name && n != name).mergeSort
    fun a b => !Text.textLt (c.fileName b) (c.fileName a)

end Codebase

end Marking
