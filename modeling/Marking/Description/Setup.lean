/-
# Marking.Description.Setup -- what a command works on, from a document

A document lists marker types, modules, and what packages publish.
-/
import Marking.CommandLine
import Marking.Description.Code

set_option autoImplicit false

namespace Marking.Description

/-- What stands around the folder in which a command works: the usual folders, a file that
is always empty, and one that holds no settings. -/
def outside : Folder where
  files := [(["dev", "null"], ""), (["etc", "passwd"], "accounts")]
  others := ["bin", "boot", "home", "lib", "media", "mnt", "opt", "proc", "root", "run", "sbin",
    "srv", "sys", "usr", "var"].map fun name => [name]

/-- The file that holds a module, by its steps. -/
def moduleFile (c : Codebase) (name : String) : List String :=
  let parts := Text.components name
  if c.isPackage name then parts ++ ["__init__.py"]
  else parts.dropLast ++ [Text.lastComponent name ++ ".py"]

/-- The text of a module is none that settings could be read from. -/
def moduleText (c : Codebase) (name : String) : String :=
  if c.modules.any fun m => m.name == name then "module" else ""

/-- The folder in which the modules of a codebase stand as files. -/
def moduleFolder (c : Codebase) (folder : Folder) : Folder :=
  c.names.foldl (fun d name => d.withFile (moduleFile c name) (moduleText c name)) folder

/-- The codebase and the published handlers that a document describes. -/
def surroundings (environment : Option String) (folder : Folder) (j : Json) :
    Described (CommandLine.Surroundings Script.State) := do
  let codebase ← codebase (j.field "tree")
  let published ← (j.field "entrypoints").items.mapM (entryPoint none)
  return { environment, folder := moduleFolder codebase folder, codebase, published }

def setup (environment : Option String) (folder : Folder) (j : Json) :
    Except Fault (CommandLine.Surroundings Script.State) :=
  (read {} do
    introduceAll (j.field "markers").items
    surroundings environment folder j).map Prod.fst

end Marking.Description
