/-
# Marking.Yaml.Writer -- documents as texts

Lists and objects stand in blocks, an item or an entry a line; empty ones between
brackets.  A list that is the value of an entry stands at the indentation of the
entry.

A text is plain where it reads back as the same text, otherwise between single quotes,
and between double quotes where it holds characters that have to be escaped.
-/
import Marking.Json
import Marking.Yaml.Page
import Marking.Yaml.Tag

set_option autoImplicit false

namespace Marking.Yaml

/-! ## The style of a scalar -/

/-- What decides about the style of a text. -/
structure Shape where
  hasBreak : Bool
  /-- It may stand without quotes. -/
  plain : Bool
  /-- It may stand between single quotes. -/
  single : Bool
  deriving DecidableEq, Repr

def isSpecial (c : Char) : Bool := !(c == '\n' || (' ' ≤ c && c ≤ '~'))

def hasPair (test : Char → Char → Bool) : List Char → Bool
  | a :: b :: cs => test a b || hasPair test (b :: cs)
  | _ => false

/-- The first character, or the first two, have a meaning in a block. -/
def opensIndicator (cs : List Char) : Bool :=
  match cs with
  | [] => false
  | c :: rest =>
    ("#,[]\x7b\x7d&*!|>'\"%@\x60".toList).contains c ||
      ((c == '?' || c == ':' || c == '-') && isGap (rest.headD endMark)) ||
      "---".toList.isPrefixOf cs || "...".toList.isPrefixOf cs

/-- Further characters have a meaning in a block: a colon before a gap or a number sign
behind one. -/
def holdsIndicator : List Char → Bool
  | a :: b :: cs =>
    (b == ':' && isGap (cs.headD endMark)) || (b == '#' && isGap a) || holdsIndicator (b :: cs)
  | _ => false

def isEdge (c : Char) : Bool := c == ' ' || isBreak c

def Shape.of (cs : List Char) : Shape :=
  let hasBreak := cs.any fun c => c != '\r' && isBreak c
  let breakBlank := hasPair (fun a b => isBreak a && b == ' ') cs
  let blankBreak := hasPair (fun a b => a == ' ' && isBreak b) cs
  let single := !breakBlank && !blankBreak && !cs.any isSpecial
  let edges := isEdge (cs.headD 'x') || isEdge (cs.getLastD 'x')
  { hasBreak, single
    plain := single && !hasBreak && !edges && !opensIndicator cs && !holdsIndicator cs }

/-- A scalar: its kind and its characters. -/
structure Leaf where
  tag : Tag
  chars : List Char

/-- A double as it is written: its mantissa always has a point. -/
def floatChars (x : Float) : List Char :=
  match Number.parts x with
  | .nan => ".nan".toList
  | .infinite negative => if negative then "-.inf".toList else ".inf".toList
  | .finite .. =>
    let cs := (Number.floatText x).toList
    if cs.contains '.' then cs
    else cs.flatMap fun c => if c == 'e' then ".0e".toList else [c]

def Leaf.of : Json → Leaf
  | .bool b => ⟨.truth, (if b then "true" else "false").toList⟩
  | .int n => ⟨.integer, (toString n).toList⟩
  | .float x => ⟨.float, floatChars x⟩
  | .str s => ⟨.text, s.toList⟩
  | _ => ⟨.null, "null".toList⟩

/-- The scalar may stand without quotes. -/
def Leaf.isPlain (l : Leaf) (key : Bool) : Bool :=
  Tag.ofPlain (String.ofList l.chars) == l.tag && !(key && l.chars.isEmpty) &&
    (Shape.of l.chars).plain

/-- Writes a scalar; the lines of a key do not end. -/
def Leaf.write (l : Leaf) (key : Bool) (indent : Nat) (p : Page) : Page :=
  let shape := Shape.of l.chars
  if l.isPlain key then p.plain (!key) indent l.chars
  else if shape.single && !(key && shape.hasBreak) then p.single (!key) indent l.chars
  else p.double (!key) indent l.chars

/-- A key that stands on a line with its value: it is short and has one line. -/
def isShortKey (s : String) : Bool :=
  let cs := s.toList
  cs.length < 123 && !cs.isEmpty && !(Shape.of cs).hasBreak

/-! ## Trees -/

/-- The indentation inside a scalar or a block; nothing around the document. -/
def further (indent : Option Nat) : Nat := (indent.map (· + Page.step)).getD 0

def insideScalar (indent : Option Nat) : Nat := (indent.getD 0) + Page.step

mutual

/-- Writes a document.  `value` says that it is the value of an entry. -/
def writeTree (value : Bool) (indent : Option Nat) (p : Page) : Json → Page
  | .list [] => (p.sign "[" true true false).sign "]" false false false
  | .list (j :: js) =>
    let inner := if value && !p.fresh then indent.getD 0 else further indent
    writeItems inner p (j :: js)
  | .object [] => (p.sign "\x7b" true true false).sign "\x7d" false false false
  | .object (e :: es) => writeEntries (further indent) p (e :: es)
  | j => (Leaf.of j).write false (insideScalar indent) p

def writeItems (indent : Nat) (p : Page) : List Json → Page
  | [] => p
  | j :: js =>
    writeItems indent
      (writeTree false (some indent) ((p.indentTo indent).sign "-" true false true) j) js

def writeEntries (indent : Nat) (p : Page) : List (String × Json) → Page
  | [] => p
  | e :: es => writeEntries indent (writeEntry indent p e) es

def writeEntry (indent : Nat) (p : Page) : String × Json → Page
  | (k, j) =>
    let p := p.indentTo indent
    let key : Leaf := ⟨.text, k.toList⟩
    if isShortKey k then
      writeTree true (some indent)
        ((key.write true (indent + Page.step) p).sign ":" false false false) j
    else
      let p := key.write false (indent + Page.step) (p.sign "?" true false true)
      writeTree true (some indent) ((p.indentTo indent).sign ":" true false true) j

end

def write (j : Json) : String := ((writeTree false none {} j).indentTo 0).text

end Marking.Yaml
