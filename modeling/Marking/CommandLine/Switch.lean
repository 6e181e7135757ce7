/-
# Marking.CommandLine.Switch -- what is typed behind the name of a program

Words that begin with a hyphen are switches: long ones, whose value may stand behind
an equals sign or in the next word, and short ones of one letter, several of which may
share a hyphen.  Two hyphens alone end the switches.  A switch may be given again; the
last value counts.

Mistakes in the words themselves are found first, from left to right; values are
looked at when all words are read.
-/
import Marking.Text.Quoted
import Marking.Text.Similarity

set_option autoImplicit false

namespace Marking.CommandLine

/-- What a switch asks to show instead of doing any work. -/
inductive Notice where
  | help
  | version
  deriving DecidableEq, Repr

/-- What a switch does. -/
inductive SwitchAction where
  | config
  | format
  | testMode (on : Bool)
  | strict
  | louder
  | shows (n : Notice)
  deriving DecidableEq, Repr

namespace SwitchAction

def takesValue : SwitchAction → Bool
  | config | format => true
  | _ => false

end SwitchAction

structure Switch where
  long : String
  short : Option Char := none
  action : SwitchAction
  deriving DecidableEq, Repr

/-- What was typed. -/
structure Arguments where
  config : Option String := none
  format : Option String := none
  testMode : Option Bool := none
  strict : Bool := false
  verbosity : Nat := 0
  /-- The first switch that asks to show something. -/
  notice : Option Notice := none
  words : List String := []
  deriving DecidableEq, Repr

namespace Arguments

def apply (a : Arguments) (action : SwitchAction) (value : String) : Arguments :=
  match action with
  | .config => { a with config := some value }
  | .format => { a with format := some value }
  | .testMode on => { a with testMode := some on }
  | .strict => { a with strict := true }
  | .louder => { a with verbosity := a.verbosity + 1 }
  | .shows n => { a with notice := a.notice <|> some n }

end Arguments

/-- What is wrong with what was typed. -/
inductive UsageFault where
  | noSuchSwitch (name : String) (similar : List String)
  | valueMissing (name : String)
  | valueRefused (name : String)
  | badChoice (name value : String) (choices : List String)
  | extraWords (words : List String)
  | commandMissing
  | noSuchCommand (name : String)
  deriving DecidableEq, Repr

namespace UsageFault

/-- The names that may have been meant. -/
def suggestion : List String → String
  | [] => ""
  | [name] => " Did you mean " ++ name ++ "?"
  | names => " (Possible options: " ++ ", ".intercalate names ++ ")"

def message : UsageFault → String
  | noSuchSwitch name similar => "No such option: " ++ name ++ suggestion similar
  | valueMissing name => "Option " ++ Text.quoted name ++ " requires an argument."
  | valueRefused name => "Option " ++ Text.quoted name ++ " does not take a value."
  | badChoice name value choices =>
    "Invalid value for " ++ Text.quoted name ++ ": " ++ Text.quoted value ++ " is not one of " ++
      ", ".intercalate (choices.map Text.quoted) ++ "."
  | extraWords [word] => "Got unexpected extra argument (" ++ word ++ ")"
  | extraWords words => "Got unexpected extra arguments (" ++ " ".intercalate words ++ ")"
  | commandMissing => "Missing command."
  | noSuchCommand name => "No such command " ++ Text.quoted name ++ "."

end UsageFault

/-- The switches of a command, and whether they may stand behind other words. -/
structure Grammar where
  switches : List Switch
  mixed : Bool := true

namespace Grammar

def long? (g : Grammar) (name : String) : Option SwitchAction :=
  (g.switches.find? fun s => s.long == name).map Switch.action

def short? (g : Grammar) (letter : Char) : Option SwitchAction :=
  (g.switches.find? fun s => s.short == some letter).map Switch.action

def unknown (g : Grammar) (name : String) : UsageFault :=
  .noSuchSwitch name (Text.closeTo (g.switches.map Switch.long) name)

/-- Reads the letters behind one hyphen. -/
def readLetters (g : Grammar) : List Char → Arguments → Except UsageFault Arguments
  | [], a => .ok a
  | c :: cs, a =>
    match g.short? c with
    | none => .error (.noSuchSwitch (String.ofList ['-', c]) [])
    | some action => readLetters g cs (a.apply action "")

/-- The name before an equals sign, and the value behind it. -/
def splitValue (cs : List Char) : String × Option String :=
  let name := cs.takeWhile (· != '=')
  (String.ofList name,
    if name.length < cs.length then some (String.ofList (cs.drop (name.length + 1))) else none)

def read (g : Grammar) : List String → Arguments → Except UsageFault Arguments
  | [], a => .ok a
  | word :: rest, a =>
    let cs := word.toList
    if word == "--" then .ok { a with words := a.words ++ rest }
    else if cs.head? == some '-' && 1 < cs.length then
      let (name, value) := splitValue cs
      match g.long? name with
      | some action =>
        match action.takesValue, value with
        | true, some v => read g rest (a.apply action v)
        | true, none =>
          match rest with
          | [] => .error (.valueMissing name)
          | v :: rest => read g rest (a.apply action v)
        | false, some _ => .error (.valueRefused name)
        | false, none => read g rest (a.apply action "")
      | none =>
        if Text.startsWith "--" word then .error (g.unknown name)
        else
          match g.readLetters (cs.drop 1) a with
          | .error f => .error f
          | .ok a => read g rest a
    else if g.mixed then read g rest { a with words := a.words ++ [word] }
    else .ok { a with words := a.words ++ word :: rest }

end Grammar

end Marking.CommandLine
