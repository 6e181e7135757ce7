/-
# Marking.Json.Reader -- documents from texts

The reader follows the grammar of documents: blanks between tokens, escapes in texts,
pairs of escaped surrogates for characters beyond the basic plane.  Of several entries
with one name the last value stands at the first place.

Every nested value is shorter than the text that holds it, so the length of the text
is fuel enough.
-/
import Marking.Json
import Marking.Number.Decimal

set_option autoImplicit false

namespace Marking.Json

def isGap (c : Char) : Bool := c == ' ' || c == '\t' || c == '\n' || c == '\r'

def skipGap (cs : List Char) : List Char := cs.dropWhile isGap

def hexValue? (c : Char) : Option Nat :=
  if c.isDigit then some (c.toNat - 48)
  else if 'a' ≤ c && c ≤ 'f' then some (c.toNat - 87)
  else if 'A' ≤ c && c ≤ 'F' then some (c.toNat - 55)
  else none

/-- The number that four hexadecimal digits write, and what follows them. -/
def hexFour? : List Char → Option (Nat × List Char)
  | a :: b :: c :: d :: rest =>
    match hexValue? a, hexValue? b, hexValue? c, hexValue? d with
    | some a, some b, some c, some d => some (((a * 16 + b) * 16 + c) * 16 + d, rest)
    | _, _, _, _ => none
  | _ => none

/-- The character that a letter after a backslash stands for. -/
def escaped? (c : Char) : Option Char :=
  match c with
  | '"' => some '"'
  | '\\' => some '\\'
  | '/' => some '/'
  | 'b' => some (Char.ofNat 8)
  | 'f' => some (Char.ofNat 12)
  | 'n' => some '\n'
  | 'r' => some '\r'
  | 't' => some '\t'
  | _ => none

/-- The character of an escape by code point; a pair of surrogates is one character. -/
def escapedCode? (cs : List Char) : Option (Char × List Char) :=
  match hexFour? cs with
  | none => none
  | some (high, rest) =>
    if 0xD800 ≤ high && high < 0xDC00 then
      match rest with
      | '\\' :: 'u' :: more =>
        match hexFour? more with
        | some (low, after) =>
          some (Char.ofNat (0x10000 + (high - 0xD800) * 0x400 + (low - 0xDC00)), after)
        | none => none
      | _ => some (Char.ofNat 0xFFFD, rest)
    else some (Char.ofNat high, rest)

/-- The rest of a text after its opening quote; `acc` holds what was read, reversed. -/
def readText : (fuel : Nat) → List Char → List Char → Option (String × List Char)
  | 0, _, _ => none
  | _ + 1, _, [] => none
  | fuel + 1, acc, c :: cs =>
    if c == '"' then some (String.ofList acc.reverse, cs)
    else if c == '\\' then
      match cs with
      | 'u' :: more =>
        match escapedCode? more with
        | some (x, rest) => readText fuel (x :: acc) rest
        | none => none
      | e :: rest =>
        match escaped? e with
        | some x => readText fuel (x :: acc) rest
        | none => none
      | [] => none
    else readText fuel (c :: acc) cs

def readNumber (cs : List Char) : Option (Json × List Char) :=
  let (negative, cs) : Bool × List Char :=
    match cs with
    | '-' :: rest => (true, rest)
    | cs => (false, cs)
  let (whole, cs) := Number.spanDigits cs
  if whole.isEmpty then none
  else
    let (fraction, cs) : List Nat × List Char :=
      match cs with
      | '.' :: rest =>
        let (ds, after) := Number.spanDigits rest
        if ds.isEmpty then ([], cs) else (ds, after)
      | cs => ([], cs)
    let exponent : Option (Int × List Char) :=
      match cs with
      | 'e' :: rest | 'E' :: rest => Number.readExponent? rest
      | _ => none
    match exponent with
    | some (e, rest) =>
      some (.float (Number.ofDecimal negative (Number.ofDigits (whole ++ fraction))
        (e - fraction.length)), rest)
    | none =>
      if fraction.isEmpty then
        let n : Int := Number.ofDigits whole
        some (.int (if negative then -n else n), cs)
      else
        some (.float (Number.ofDecimal negative (Number.ofDigits (whole ++ fraction))
          (-(fraction.length : Int))), cs)

/-- Puts an entry under its name; a known name keeps its place. -/
def putEntry (entries : List (String × Json)) (name : String) (j : Json) :
    List (String × Json) :=
  if entries.any (fun e => e.1 == name) then
    entries.map fun e => if e.1 == name then (name, j) else e
  else entries ++ [(name, j)]

mutual

def readValue : (fuel : Nat) → List Char → Option (Json × List Char)
  | 0, _ => none
  | fuel + 1, cs =>
    match skipGap cs with
    | 'n' :: 'u' :: 'l' :: 'l' :: rest => some (.null, rest)
    | 't' :: 'r' :: 'u' :: 'e' :: rest => some (.bool true, rest)
    | 'f' :: 'a' :: 'l' :: 's' :: 'e' :: rest => some (.bool false, rest)
    | '"' :: rest => (readText (rest.length + 1) [] rest).map fun (s, rest) => (.str s, rest)
    | '[' :: rest =>
      match skipGap rest with
      | ']' :: after => some (.list [], after)
      | _ => readItems fuel [] rest
    | '\x7b' :: rest =>
      match skipGap rest with
      | '\x7d' :: after => some (.object [], after)
      | _ => readEntries fuel [] rest
    | cs => readNumber cs

/-- Reads the items of a list; `acc` holds those that were read, reversed. -/
def readItems : (fuel : Nat) → List Json → List Char → Option (Json × List Char)
  | 0, _, _ => none
  | fuel + 1, acc, cs =>
    match readValue fuel cs with
    | none => none
    | some (j, rest) =>
      match skipGap rest with
      | ',' :: rest => readItems fuel (j :: acc) rest
      | ']' :: rest => some (.list (j :: acc).reverse, rest)
      | _ => none

def readEntries : (fuel : Nat) → List (String × Json) → List Char → Option (Json × List Char)
  | 0, _, _ => none
  | fuel + 1, acc, cs =>
    match skipGap cs with
    | '"' :: rest =>
      match readText (rest.length + 1) [] rest with
      | none => none
      | some (name, rest) =>
        match skipGap rest with
        | ':' :: rest =>
          match readValue fuel rest with
          | none => none
          | some (j, rest) =>
            match skipGap rest with
            | ',' :: rest => readEntries fuel (putEntry acc name j) rest
            | '\x7d' :: rest => some (.object (putEntry acc name j), rest)
            | _ => none
        | _ => none
    | _ => none

end

def parse? (s : String) : Option Json :=
  let cs := s.toList
  match readValue (2 * cs.length + 2) cs with
  | some (j, rest) => if (skipGap rest).isEmpty then some j else none
  | none => none

end Marking.Json
