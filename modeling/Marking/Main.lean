/-
# Marking.Main -- the program

What the commands work on is described in the document `markgen.json` of the working
directory; without one there is nothing to scan and nothing published.
-/
import Marking.Description.Answer
import Marking.Description.Setup
import Marking.Json.Reader

set_option autoImplicit false

namespace Marking.Program

def readIfPresent (path : String) : IO (Option String) := do
  try
    return some (← IO.FS.readFile path)
  catch _ => return none

/-- The file that the typed words ask for. -/
def folderFor (words : List String) : IO Folder := do
  match CommandLine.configPath? words with
  | none => return {}
  | some path =>
    match ← readIfPresent path with
    | some text => return .ofFile path text
    | none => return {}

/-- The description of what the commands work on. -/
def description : IO Json := do
  match ← readIfPresent "markgen.json" with
  | some text => return (Json.parse? text).getD (.object [])
  | none => return .object []

def report (o : CommandLine.Outcome) : IO UInt32 := do
  let err ← IO.getStderr
  for line in o.usage ++ o.complained do err.putStrLn line
  unless o.said.isEmpty do IO.println (Answer.fullText o.said)
  match o.unhandled with
  | some f => err.putStrLn (f.errorClass.label ++ ": " ++ f.message)
  | none => pure ()
  return o.exit.toUInt32

end Marking.Program

open Marking in
def main (words : List String) : IO UInt32 := do
  let environment ← IO.getEnv "MARKGEN_TEST_MODE"
  let folder ← Program.folderFor words
  match Description.setup environment folder (← Program.description) with
  | .error f =>
    IO.eprintln f.message
    return 1
  | .ok surroundings =>
    let world : World Script.State := { own := {} }
    Program.report (CommandLine.run surroundings words world).1
