/-
# Marking.Folder -- the files that a command can read

A path is written as steps between slashes.  Empty steps and steps that stay where they
are (`.`) mean nothing; two steps up (`..`) are taken when the path is walked, so what
lies before them has to be there.  A path that begins with a slash is walked from the
outermost folder, any other from the folder in which the command works.

`Folder.read` is the text of the file at a path.  It is refused with the first thing that
is wrong on the way: a step to something that is not there, a step beyond a file, a step
that is too long to be a name, or a folder at the end.
-/
import Marking.Fault

set_option autoImplicit false

namespace Marking

structure Path where
  /-- What stands in front of the first step: nothing, one slash or two. -/
  root : String
  steps : List String
  deriving DecidableEq, Repr

namespace Path

/-- Two slashes in front of a path stay, any other number above none means one. -/
def rootOf (cs : List Char) : String :=
  match (cs.takeWhile (· == '/')).length with
  | 0 => ""
  | 2 => "//"
  | _ => "/"

def ofText (s : String) : Path where
  root := rootOf s.toList
  steps := ((Text.splitAt '/' s.toList).map String.ofList).filter fun step =>
    step != "" && step != "."

/-- The path without steps that mean nothing. -/
def text (p : Path) : String :=
  let s := p.root ++ "/".intercalate p.steps
  if s.isEmpty then "." else s

/-- A step that leads up. -/
def isUp (step : String) : Bool := step == ".."

example : (ofText "./a//b/../").text = "a/b/.." := by decide +kernel
example : (ofText "///a").text = "/a" := by decide +kernel

end Path

/-- Files by their places: the steps from the outermost folder.  Every place above a file
is a folder. -/
structure Folder where
  files : List (List String × String) := []
  /-- Folders that need not hold files. -/
  others : List (List String) := []

namespace Folder

/-- The folder in which a command works.  Its own step has no name, so no path enters it
from outside. -/
def working : List String := ["tmp", ""]

def isFolder (d : Folder) (place : List String) : Bool :=
  place.isPrefixOf working ||
    (d.files.map Prod.fst ++ d.others).any fun other =>
      place.isPrefixOf other && (place != other || d.others.contains other)

/-- The most bytes in the name of a step. -/
def nameLimit : Nat := 255

/-- The most bytes in a path. -/
def pathLimit : Nat := 4095

def walk (d : Folder) (shown : String) : (place : List String) → (steps : List String) →
    Except Fault (List String)
  | place, [] => .ok place
  | place, step :: rest =>
    if !d.isFolder place then .error (.notDirectory shown)
    else if Path.isUp step then d.walk shown place.dropLast rest
    else if nameLimit < step.utf8ByteSize then .error (.nameTooLong shown)
    else
      let next := place ++ [step]
      if (d.files.lookup next).isSome || d.isFolder next then d.walk shown next rest
      else .error (.noSuchFile shown)

def read (d : Folder) (path : String) : Except Fault String := do
  let p := Path.ofText path
  if path.toList.contains (Char.ofNat 0) then throw .nullInPath
  if pathLimit < p.text.utf8ByteSize then throw (.nameTooLong p.text)
  let place ← d.walk p.text (if p.root.isEmpty then working else []) p.steps
  match d.files.lookup place with
  | some text => .ok text
  | none => .error (.isDirectory p.text)

/-- The place of a path when every step up takes a step back. -/
def placeOf (p : Path) : List String :=
  p.steps.foldl (fun place step => if Path.isUp step then place.dropLast else place ++ [step])
    (if p.root.isEmpty then working else [])

/-- A folder in which the path leads to a file. -/
def ofFile (path text : String) : Folder :=
  let p := Path.ofText path
  { files := [(placeOf p, text)]
    others := (List.range p.steps.length).map fun n => placeOf { p with steps := p.steps.take n } }

/-- The folder with a file in the folder in which a command works. -/
def withFile (d : Folder) (steps : List String) (text : String) : Folder :=
  { d with files := (working ++ steps, text) :: d.files }

example : ((ofFile "a/../b.yaml" "x").read "a/../b.yaml").toOption = some "x" := by decide +kernel

end Folder

end Marking
