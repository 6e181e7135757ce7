/-
# Marking.Yaml.Token.Scalar -- the texts in a document

A scalar stands plain, between quotes, or in a block of lines.  Every function here
reads one scalar from its first character and returns its text with the place behind
it; nothing is returned where the text breaks a rule.

Line ends inside plain and quoted scalars are folded: one becomes a blank, several
lose one.  Each step of a loop passes a character, so the length of the rest bounds
the number of steps.
-/
import Marking.Json.Reader
import Marking.Text.Half
import Marking.Yaml.Cursor
import Marking.Yaml.Token

set_option autoImplicit false

namespace Marking.Yaml

/-- Line ends in a row, each as the break it stands for, with what `skip` passes
before each of them. -/
def breaksWith (skip : Cursor → Cursor) (stop : Cursor → Bool) :
    (fuel : Nat) → List Char → Cursor → List Char × Cursor × Bool
  | 0, acc, c => (acc, c, false)
  | fuel + 1, acc, c =>
    if stop c then (acc, c, true)
    else
      let c := skip c
      if isBreak c.peek then
        let (b, c) := c.lineBreak
        breaksWith skip stop fuel (acc ++ b) c
      else (acc, c, false)

def folded (first further : List Char) : List Char :=
  (if first != ['\n'] then first else if further.isEmpty then [' '] else []) ++ further

/-! ## Plain scalars -/

/-- How many characters of a plain scalar follow. -/
def plainLength (inFlow : Bool) : List Char → Nat
  | [] => 0
  | c :: rest =>
    let next := rest.headD endMark
    if isGap c || (c == ':' && (isGap next || (inFlow && (",[]\x7b\x7d".toList).contains next))) ||
        (inFlow && (",?[]\x7b\x7d".toList).contains c) then 0
    else 1 + plainLength inFlow rest

/-- The blanks and line ends between the words of a plain scalar.  `newLine` says
that a line has ended; nothing stands for the end of the scalar. -/
structure PlainGap where
  chars : List Char
  newLine : Bool
  cursor : Cursor

/-- Reads what stands between two words of a plain scalar. -/
def plainGap (c : Cursor) : PlainGap :=
  let (blanks, c) := c.takeWhile (· == ' ')
  if isBreak c.peek then
    let (first, c) := c.lineBreak
    let (further, c, stopped) :=
      breaksWith Cursor.skipBlanks Cursor.atDocumentMark (c.rest.length + 1) [] c
    ⟨if stopped then [] else folded first further, true, c⟩
  else ⟨blanks, false, c⟩

/-- A plain scalar: its text, whether a line has ended behind it, and the place. -/
def plainFrom (inFlow : Bool) (indent : Int) :
    (fuel : Nat) → (acc gap : List Char) → (newLine : Bool) → Cursor → List Char × Bool × Cursor
  | 0, acc, _, newLine, c => (acc, newLine, c)
  | fuel + 1, acc, gap, newLine, c =>
    let length := if c.peek == '#' then 0 else plainLength inFlow c.rest
    if length == 0 then (acc, newLine, c)
    else
      let acc := acc ++ gap ++ c.rest.take length
      let next := plainGap (c.advanceBy length)
      if next.chars.isEmpty || next.cursor.peek == '#' ||
          (!inFlow && (next.cursor.column : Int) < indent) then
        (acc, next.newLine, next.cursor)
      else plainFrom inFlow indent fuel acc next.chars next.newLine next.cursor

def plainScalar (inFlow : Bool) (indent : Int) (c : Cursor) : String × Bool × Cursor :=
  let (chars, newLine, c) := plainFrom inFlow (indent + 1) (c.rest.length + 1) [] [] false c
  (String.ofList chars, newLine, c)

/-! ## Quoted scalars -/

/-- The character that a letter after a backslash stands for. -/
def escapeOf? (c : Char) : Option Char :=
  match c with
  | '0' => some (Char.ofNat 0)
  | 'a' => some (Char.ofNat 7)
  | 'b' => some (Char.ofNat 8)
  | 't' | '\t' => some '\t'
  | 'n' => some '\n'
  | 'v' => some (Char.ofNat 11)
  | 'f' => some (Char.ofNat 12)
  | 'r' => some '\r'
  | 'e' => some (Char.ofNat 27)
  | ' ' => some ' '
  | '"' => some '"'
  | '\\' => some '\\'
  | '/' => some '/'
  | 'N' => some (Char.ofNat 0x85)
  | '_' => some (Char.ofNat 0xA0)
  | 'L' => some (Char.ofNat 0x2028)
  | 'P' => some (Char.ofNat 0x2029)
  | _ => none

/-- How many hexadecimal digits follow a letter after a backslash. -/
def escapeWidth? (c : Char) : Option Nat :=
  match c with
  | 'x' => some 2
  | 'u' => some 4
  | 'U' => some 8
  | _ => none

def hexNumber? (cs : List Char) : Option Nat :=
  cs.foldl
    (fun n c => n.bind fun n => (Json.hexValue? c).map fun d => 16 * n + d)
    (some 0)

/-- Line ends inside quotes; a mark of a document between them breaks a rule. -/
def quotedBreaks (c : Cursor) : Option (List Char × Cursor) :=
  let blanks := fun c : Cursor => c.skipWhile fun x => x == ' ' || x == '\t'
  let (acc, c, stopped) := breaksWith blanks Cursor.atDocumentMark (c.rest.length + 1) [] c
  if stopped then none else some (acc, c)

/-- The number that an escape after a backslash writes, and the place behind it. -/
def escapeCode? (c : Cursor) : Option (Nat × Cursor) := do
  let width ← escapeWidth? c.peek
  let digits := c.advance.rest.take width
  guard (digits.length == width)
  let n ← hexNumber? digits
  some (n, c.advance.advanceBy width)

def readCode (c : Cursor) : Option (List Char × Cursor) :=
  (escapeCode? c).map fun (n, after) => ([Text.characterOf n], after)

def codeWithoutCharacter? (c : Cursor) : Option Nat :=
  match escapeOf? c.peek, escapeCode? c with
  | none, some (n, _) => if 0x110000 ≤ n then some n else none
  | _, _ => none

def readEscape (c : Cursor) : Option (List Char × Cursor) :=
  match escapeOf? c.peek, escapeWidth? c.peek with
  | some x, _ => some ([x], c.advance)
  | none, some _ => readCode c
  | none, none => if isBreak c.peek then quotedBreaks c.lineBreak.2 else none

def quotedGap (c : Cursor) : Option (List Char × Cursor) :=
  let (blanks, c) := c.takeWhile fun x => x == ' ' || x == '\t'
  if c.peek == endMark then none
  else if isBreak c.peek then
    let (first, c) := c.lineBreak
    (quotedBreaks c).map fun (further, c) => (folded first further, c)
  else some (blanks, c)

/-- The rest of a quoted scalar behind its opening quote.  An escape for a number that no
character has breaks the text off. -/
def quotedFrom (double : Bool) : (fuel : Nat) → (acc : List Char) → Cursor →
    Option (Token × Cursor)
  | 0, _, _ => none
  | fuel + 1, acc, c =>
    let x := c.peek
    if x == '"' && double then some (.scalar (String.ofList acc) false, c.advance)
    else if x == '\'' && !double then
      if c.peekAt 1 == '\'' then quotedFrom double fuel (acc ++ ['\'']) (c.advanceBy 2)
      else some (.scalar (String.ofList acc) false, c.advance)
    else if x == '\\' && double then
      match codeWithoutCharacter? c.advance, readEscape c.advance with
      | some n, _ => some (.broken (.noCharacter n), c)
      | none, some (cs, c) => quotedFrom double fuel (acc ++ cs) c
      | none, none => none
    else if isGap x then
      match quotedGap c with
      | some (cs, c) => quotedFrom double fuel (acc ++ cs) c
      | none => none
    else quotedFrom double fuel (acc ++ [x]) c.advance

def quotedScalar (double : Bool) (c : Cursor) : Option (Token × Cursor) :=
  quotedFrom double (c.rest.length + 2) [] c.advance

/-! ## Block scalars -/

/-- What becomes of the line ends behind the last line of a block. -/
inductive Chomping where
  | strip
  | clip
  | keep
  deriving DecidableEq, Repr

def chompingOf? (c : Char) : Option Chomping :=
  match c with
  | '+' => some .keep
  | '-' => some .strip
  | _ => none

def incrementOf? (c : Char) : Option Nat :=
  if c.isDigit then some (c.toNat - 48) else none

/-- The chomping and the indentation that the head of a block states. -/
def blockHead (c : Cursor) : Option (Chomping × Option Nat × Cursor) :=
  let result : Option (Chomping × Option Nat × Cursor) :=
    match chompingOf? c.peek, incrementOf? c.peek with
    | some chomping, _ =>
      match incrementOf? (c.peekAt 1) with
      | some 0 => none
      | some n => some (chomping, some n, c.advanceBy 2)
      | none => some (chomping, none, c.advance)
    | none, some 0 => none
    | none, some n =>
      match chompingOf? (c.peekAt 1) with
      | some chomping => some (chomping, some n, c.advanceBy 2)
      | none => some (.clip, some n, c.advance)
    | none, none => some (.clip, none, c)
  match result with
  | some (chomping, increment, c) =>
    if c.peek == ' ' || isLineEnd c.peek then some (chomping, increment, c) else none
  | none => none

def ignoredLine (c : Cursor) : Option Cursor :=
  let c := c.skipBlanks
  let c := if c.peek == '#' then c.skipWhile fun x => !isLineEnd x else c
  if isLineEnd c.peek then some c.lineBreak.2 else none

/-- Empty lines before a block, and the widest indentation among them. -/
def blockIndentation : (fuel : Nat) → (acc : List Char) → (widest : Nat) → Cursor →
    List Char × Nat × Cursor
  | 0, acc, widest, c => (acc, widest, c)
  | fuel + 1, acc, widest, c =>
    if c.peek == ' ' then
      let c := c.advance
      blockIndentation fuel acc (max widest c.column) c
    else if isBreak c.peek then
      let (b, c) := c.lineBreak
      blockIndentation fuel (acc ++ b) widest c
    else (acc, widest, c)

def blockBreaks (indent : Nat) (c : Cursor) : List Char × Cursor :=
  let (acc, c, _) := breaksWith (fun c => c.skipBlanksTo indent) (fun _ => false)
    (c.rest.length + 1) [] c
  (acc, c)

def beginsWord (c : Char) : Bool := c != ' ' && c != '\t'

/-- The lines of a block: their text, the last line end, and the line ends behind. -/
def blockLines (fold : Bool) (indent : Nat) : (fuel : Nat) → (acc last breaks : List Char) →
    Cursor → List Char × List Char × List Char × Cursor
  | 0, acc, last, breaks, c => (acc, last, breaks, c)
  | fuel + 1, acc, last, breaks, c =>
    if c.column == indent && c.peek != endMark then
      let word := beginsWord c.peek
      let (chars, c) := c.takeWhile fun x => !isLineEnd x
      let acc := acc ++ breaks ++ chars
      let (last, c) := c.lineBreak
      let (breaks, c) := blockBreaks indent c
      if c.column == indent && c.peek != endMark then
        let joint :=
          if fold && last == ['\n'] && word && beginsWord c.peek then
            if breaks.isEmpty then [' '] else []
          else last
        blockLines fold indent fuel (acc ++ joint) last breaks c
      else (acc, last, breaks, c)
    else (acc, last, breaks, c)

def blockScalar (fold : Bool) (indent : Int) (c : Cursor) : Option (String × Cursor) :=
  match blockHead c.advance with
  | none => none
  | some (chomping, increment, c) =>
    match ignoredLine c with
    | none => none
    | some c =>
      let least := (max (indent + 1) 1).toNat
      let (breaks, width, c) : List Char × Nat × Cursor :=
        match increment with
        | some n =>
          let width := least + n - 1
          let (breaks, c) := blockBreaks width c
          (breaks, width, c)
        | none =>
          let (breaks, widest, c) := blockIndentation (c.rest.length + 1) [] 0 c
          (breaks, max least widest, c)
      let (chars, last, behind, c) := blockLines fold width (c.rest.length + 1) [] [] breaks c
      let tail := match chomping with
        | .strip => []
        | .clip => last
        | .keep => last ++ behind
      some (String.ofList (chars ++ tail), c)

end Marking.Yaml
