/-
# Marking.Json.Writer -- documents as texts

Every character beyond ASCII is escaped, characters beyond the basic plane by a pair
of surrogates.  The compact form stands on one line; the indented form gives every
item a line of its own.
-/
import Marking.Json
import Marking.Text.Quoted

set_option autoImplicit false

namespace Marking.Json

def escapeCode (n : Nat) : List Char := '\\' :: 'u' :: Text.hex 4 n

def escapeChar (c : Char) : List Char :=
  if c == '"' || c == '\\' then ['\\', c]
  else if c == '\n' then ['\\', 'n']
  else if c == '\r' then ['\\', 'r']
  else if c == '\t' then ['\\', 't']
  else if c.toNat == 8 then ['\\', 'b']
  else if c.toNat == 12 then ['\\', 'f']
  else if 32 ≤ c.toNat && c.toNat < 127 then [c]
  else
    let n := Text.codeOf c
    if n < 0x10000 then escapeCode n
    else
      let m := n - 0x10000
      escapeCode (0xD800 + m / 0x400) ++ escapeCode (0xDC00 + m % 0x400)

def quotedText (s : String) : String :=
  String.ofList ('"' :: s.toList.flatMap escapeChar ++ ['"'])

/-- A double; what is no number has a word. -/
def floatWord (x : Float) : String :=
  match Number.parts x with
  | .nan => "NaN"
  | .infinite negative => if negative then "-Infinity" else "Infinity"
  | .finite .. => Number.floatText x

/-- A line end and the blanks of a depth; nothing in the compact form. -/
def lineBreak (indent : Option Nat) (depth : Nat) : String :=
  match indent with
  | none => ""
  | some width => "\n" ++ String.ofList (List.replicate (width * depth) ' ')

/-- What stands between two items on one line. -/
def itemGap (indent : Option Nat) : String := if indent.isSome then "," else ", "

mutual

def write (indent : Option Nat) (depth : Nat) : Json → String
  | null => "null"
  | bool b => if b then "true" else "false"
  | int n => toString n
  | float x => floatWord x
  | str s => quotedText s
  | list [] => "[]"
  | list (j :: js) =>
    "[" ++ lineBreak indent (depth + 1) ++ write indent (depth + 1) j ++
      writeItems indent (depth + 1) js ++ lineBreak indent depth ++ "]"
  | object [] => "\x7b\x7d"
  | object (e :: es) =>
    "\x7b" ++ lineBreak indent (depth + 1) ++ writeEntry indent (depth + 1) e ++
      writeEntries indent (depth + 1) es ++ lineBreak indent depth ++ "\x7d"

def writeItems (indent : Option Nat) (depth : Nat) : List Json → String
  | [] => ""
  | j :: js =>
    itemGap indent ++ lineBreak indent depth ++ write indent depth j ++ writeItems indent depth js

def writeEntry (indent : Option Nat) (depth : Nat) : String × Json → String
  | (k, j) => quotedText k ++ ": " ++ write indent depth j

def writeEntries (indent : Option Nat) (depth : Nat) : List (String × Json) → String
  | [] => ""
  | e :: es =>
    itemGap indent ++ lineBreak indent depth ++ writeEntry indent depth e ++
      writeEntries indent depth es

end

def compact (j : Json) : String := write none 0 j

/-- A document with every item on a line of its own. -/
def indented (j : Json) : String := write (some 2) 0 j

end Marking.Json
