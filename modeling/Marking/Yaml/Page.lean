/-
# Marking.Yaml.Page -- a text under the pen

A page holds what is written, the column of the next character, and what stands
directly before it: whether it is a gap, and whether the line holds nothing but
indentation and signs that may follow each other.

A scalar is written on one line as long as it fits.  Where `split` allows it, a line
that has grown too long ends at the next single blank.
-/
import Marking.Text.Quoted
import Marking.Yaml.Cursor

set_option autoImplicit false

namespace Marking.Yaml

structure Page where
  /-- What is written, the last character first. -/
  written : List Char := []
  column : Nat := 0
  /-- A gap stands before the next character. -/
  spaced : Bool := true
  /-- Only indentation and signs stand before it on its line. -/
  fresh : Bool := true

namespace Page

/-- A line that goes beyond this column may end. -/
def width : Nat := 80

/-- How much further in a block stands than the one around it. -/
def step : Nat := 2

def text (p : Page) : String := String.ofList p.written.reverse

def put (p : Page) (cs : List Char) : Page :=
  { p with written := cs.reverse ++ p.written, column := p.column + cs.length }

def newLine (p : Page) : Page :=
  { written := '\n' :: p.written, column := 0, spaced := true, fresh := true }

/-- Goes to the indentation, on a new line unless this one is still free up to there. -/
def indentTo (p : Page) (indent : Nat) : Page :=
  let p :=
    if !p.fresh || indent < p.column || (p.column == indent && !p.spaced) then p.newLine else p
  if p.column < indent then
    { p.put (List.replicate (indent - p.column) ' ') with spaced := true }
  else p

/-- Writes a sign.  `apart` asks for a gap before it, `spaces` says that it is a gap
itself, `opens` that a block may begin behind it on the same line. -/
def sign (p : Page) (s : String) (apart spaces opens : Bool) : Page :=
  let p := p.put (if p.spaced || !apart then s.toList else ' ' :: s.toList)
  { p with spaced := spaces, fresh := p.fresh && opens }

/-! ## Scalars -/

def wrap (p : Page) (indent : Nat) : Page :=
  { p.indentTo indent with spaced := false, fresh := false }

/-- The first run of characters that agree on the test with the first, and the rest. -/
def firstRun (kind : Char → Nat) : List Char → List Char × List Char
  | [] => ([], [])
  | c :: cs =>
    let same := fun d => kind d == kind c
    (c :: cs.takeWhile same, cs.dropWhile same)

def runs (kind : Char → Nat) : (fuel : Nat) → List Char → List (List Char)
  | 0, _ => []
  | fuel + 1, cs =>
    match firstRun kind cs with
    | ([], _) => []
    | (run, rest) => run :: runs kind fuel rest

/-- Blanks, line ends and words. -/
def runKind (c : Char) : Nat := if c == ' ' then 0 else if isBreak c then 1 else 2

def mayWrap (p : Page) (split : Bool) (run : List Char) : Bool :=
  split && run.length == 1 && width < p.column

/-- Writes a scalar without quotes; it has no line ends. -/
def plain (p : Page) (split : Bool) (indent : Nat) (cs : List Char) : Page :=
  if cs.isEmpty then p
  else
    let p := if p.spaced then p else p.put [' ']
    (runs runKind (cs.length + 1) cs).foldl
      (fun p run =>
        if run.headD 'x' == ' ' && p.mayWrap split run then p.wrap indent else p.put run)
      { p with spaced := false, fresh := false }

/-- Quotes inside single quotes are written twice. -/
def doubledQuote (c : Char) : List Char := if c == '\'' then ['\'', '\''] else [c]

/-- Writes the runs of a scalar between single quotes; `first` says that nothing has
been written yet. -/
def singleRuns (split : Bool) (indent : Nat) : (first : Bool) → List (List Char) → Page → Page
  | _, [], p => p
  | first, run :: more, p =>
    let head := run.headD 'x'
    let p :=
      if head == ' ' then
        if !first && !more.isEmpty && p.mayWrap split run then p.indentTo indent else p.put run
      else if isBreak head then
        (run.foldl (fun p _ => p.newLine) (if head == '\n' then p.newLine else p)).indentTo indent
      else p.put (run.flatMap doubledQuote)
    singleRuns split indent false more p

def single (p : Page) (split : Bool) (indent : Nat) (cs : List Char) : Page :=
  (singleRuns split indent true (runs runKind (cs.length + 1) cs)
    (p.sign "'" true false false)).sign "'" false false false

/-- The letter that stands for a character behind a backslash. -/
def escapeLetter? (c : Char) : Option Char :=
  match c.toNat with
  | 0x00 => some '0'
  | 0x07 => some 'a'
  | 0x08 => some 'b'
  | 0x09 => some 't'
  | 0x0A => some 'n'
  | 0x0B => some 'v'
  | 0x0C => some 'f'
  | 0x0D => some 'r'
  | 0x1B => some 'e'
  | 0x22 => some '"'
  | 0x5C => some '\\'
  | 0x85 => some 'N'
  | 0xA0 => some '_'
  | 0x2028 => some 'L'
  | 0x2029 => some 'P'
  | _ => none

def capitalHex (width n : Nat) : List Char := (Text.hex width n).map Char.toUpper

def escaped (c : Char) : List Char :=
  match escapeLetter? c with
  | some letter => ['\\', letter]
  | none =>
    let n := Text.codeOf c
    if n < 0x100 then '\\' :: 'x' :: capitalHex 2 n
    else if n < 0x10000 then '\\' :: 'u' :: capitalHex 4 n
    else '\\' :: 'U' :: capitalHex 8 n

def isItself (c : Char) : Bool := ' ' ≤ c && c ≤ '~' && c != '"' && c != '\\'

/-- Ends a long line between double quotes: a backslash takes the line end away, and
another one keeps a blank that would begin the next line. -/
def brokenLine (p : Page) (indent : Nat) (next : Char) : Page :=
  let p := (p.put ['\\']).wrap indent
  if next == ' ' then p.put ['\\'] else p

/-- Writes the characters of a scalar between double quotes.  `held` are the characters
that wait to be written, reversed.  A line may end before a blank and where nothing
waits, which is behind an escape, but not at the first or the last character. -/
def doubleChars (split : Bool) (indent : Nat) :
    (first : Bool) → (held : List Char) → List Char → Page → Page
  | _, held, [], p => p.put held.reverse
  | first, held, c :: cs, p =>
    let inner := split && !first && !cs.isEmpty
    if isItself c then
      if inner && (c == ' ' || held.isEmpty) && width < p.column + held.length then
        doubleChars split indent false [c] cs ((p.put held.reverse).brokenLine indent c)
      else doubleChars split indent false (c :: held) cs p
    else
      let p := (p.put held.reverse).put (escaped c)
      if inner && width + 1 < p.column then
        doubleChars split indent false [] cs (p.brokenLine indent (cs.headD 'x'))
      else doubleChars split indent false [] cs p

def double (p : Page) (split : Bool) (indent : Nat) (cs : List Char) : Page :=
  (doubleChars split indent true [] cs (p.sign "\"" true false false)).sign "\"" false false false

end Page

end Marking.Yaml
