/-
# Marking.Yaml.Token.Lexer -- from a text to its tokens

The lexer passes the text once.  It keeps the indentation of the open blocks, the
depth of brackets, and for every depth the place where a key may have begun: whether
something is a key shows only at the colon behind it, and the token for the key is
then put in front of it.

Nothing is returned where the text breaks a rule.  Every step passes at least one
character, so the length of the text bounds the number of steps.
-/
import Marking.Yaml.Token.Scalar

set_option autoImplicit false

namespace Marking.Yaml

/-- A place where a key may have begun. -/
structure PossibleKey where
  /-- How many tokens stand before it. -/
  position : Nat
  /-- Nothing but a key may stand here. -/
  required : Bool
  index : Nat
  line : Nat
  column : Nat
  deriving DecidableEq, Repr

/-- What the lexer knows at a place. -/
structure Lexer where
  cursor : Cursor
  tokens : Array Token := #[]
  /-- The depth of brackets. -/
  depth : Nat := 0
  /-- The indentation of the innermost block; -1 outside all blocks. -/
  indent : Int := -1
  outer : List Int := []
  /-- A key may begin here. -/
  keyAllowed : Bool := true
  /-- The possible keys by depth. -/
  keys : List (Nat × PossibleKey) := []

namespace Lexer

def emit (l : Lexer) (t : Token) : Lexer := { l with tokens := l.tokens.push t }

def inFlow (l : Lexer) : Bool := l.depth != 0

def insertAt (l : Lexer) (position : Nat) (t : Token) : Lexer :=
  { l with tokens := l.tokens.extract 0 position ++ #[t] ++
      l.tokens.extract position l.tokens.size }

def column (l : Lexer) : Int := l.cursor.column

def openBlock (l : Lexer) (column : Int) : Option Lexer :=
  if l.indent < column then some { l with outer := l.indent :: l.outer, indent := column }
  else none

/-- Closes the blocks that lie further in than the column. -/
def closeFrom (column : Int) : List Int → Lexer → Lexer
  | [], l => l
  | i :: outer, l =>
    if column < l.indent then
      closeFrom column outer ({ l with indent := i, outer }.emit .blockEnd)
    else l

/-- Closes the blocks that lie further in than the column; inside brackets the
indentation means nothing. -/
def unwind (l : Lexer) (column : Int) : Lexer :=
  if l.inFlow then l else closeFrom column l.outer l

/-- Forgets the possible key at this depth; refused when it had to be one. -/
def dropKey (l : Lexer) : Option Lexer :=
  match l.keys.lookup l.depth with
  | none => some l
  | some k =>
    if k.required then none
    else some { l with keys := l.keys.filter fun e => e.1 != l.depth }

def noteKey (l : Lexer) : Option Lexer :=
  if l.keyAllowed then
    l.dropKey.map fun l =>
      { l with keys := (l.depth,
          { position := l.tokens.size, required := !l.inFlow && l.indent == l.column
            index := l.cursor.index, line := l.cursor.line
            column := l.cursor.column }) :: l.keys }
  else some l

/-- A possible key on another line, or too far back, is none. -/
def isStale (l : Lexer) (k : PossibleKey) : Bool :=
  k.line != l.cursor.line || 1024 < l.cursor.index - k.index

/-- Forgets the possible keys that have become stale; refused when one had to be a
key. -/
def dropStale (l : Lexer) : Option Lexer :=
  if l.keys.any fun e => l.isStale e.2 && e.2.required then none
  else some { l with keys := l.keys.filter fun e => !l.isStale e.2 }

def skipGaps : (fuel : Nat) → Lexer → Lexer
  | 0, l => l
  | fuel + 1, l =>
    let c := l.cursor.skipBlanks
    let c := if c.peek == '#' then c.skipWhile fun x => !isLineEnd x else c
    if isBreak c.peek then
      skipGaps fuel { l with cursor := c.lineBreak.2, keyAllowed := l.keyAllowed || !l.inFlow }
    else { l with cursor := c }

/-- Passes everything in front of the next token. -/
def toNext (l : Lexer) : Lexer :=
  let c := l.cursor
  let c := if c.index == 0 && c.peek.toNat == 0xFEFF then c.advance else c
  skipGaps (c.rest.length + 1) { l with cursor := c }

/-- Passes characters and adds a token for them. -/
def pass (l : Lexer) (n : Nat) (t : Token) : Lexer :=
  { l with cursor := l.cursor.advanceBy n }.emit t

/-! ## Directives -/

def number? (c : Cursor) : Option (Nat × Cursor) :=
  let (ds, after) := c.takeWhile Char.isDigit
  if ds.isEmpty then none
  else some (Number.ofDigits (ds.map fun d => d.toNat - 48), after)

def isEnd (c : Char) : Bool := c == ' ' || isLineEnd c

def version? (c : Cursor) : Option (Token × Cursor) := do
  let (major, c) ← number? c.skipBlanks
  guard (c.peek == '.')
  let (_, c) ← number? c.advance
  guard (isEnd c.peek)
  some (.version major, c)

def tagHandle? (c : Cursor) : Option (String × Cursor) :=
  if c.peek != '!' then none
  else if c.peekAt 1 == ' ' then some ("!", c.advance)
  else
    let (name, after) := c.advance.takeWhile isNameChar
    if after.peek == '!' then some (String.ofList ('!' :: name ++ ['!']), after.advance) else none

def isAddressChar (c : Char) : Bool :=
  c.isAlphanum || ("-;/?:@&=+$,_.!~*'()[]%".toList).contains c

/-- The bytes that escapes by percent signs write. -/
def escapedBytes? : List Char → Option (List UInt8)
  | [] => some []
  | '%' :: a :: b :: rest =>
    match Json.hexValue? a, Json.hexValue? b with
    | some h, some l => (escapedBytes? rest).map (UInt8.ofNat (16 * h + l) :: ·)
    | _, _ => none
  | _ => none

/-- How many characters the escapes at the beginning take. -/
def escapesLength : List Char → Nat
  | '%' :: _ :: _ :: rest => 3 + escapesLength rest
  | '%' :: rest => 1 + rest.length
  | _ => 0

/-- The characters of an address: escapes that follow each other are the bytes of a
text. -/
def addressChars? : (fuel : Nat) → List Char → Option (List Char)
  | 0, _ => none
  | _ + 1, [] => some []
  | fuel + 1, '%' :: cs =>
    let n := escapesLength ('%' :: cs)
    match escapedBytes? (('%' :: cs).take n) with
    | none => none
    | some bytes =>
      match String.fromUTF8? ⟨bytes.toArray⟩ with
      | none => none
      | some s => (addressChars? fuel (('%' :: cs).drop n)).map (s.toList ++ ·)
  | fuel + 1, c :: cs => (addressChars? fuel cs).map (c :: ·)

def address? (c : Cursor) : Option (String × Cursor) :=
  let (chars, after) := c.takeWhile isAddressChar
  if chars.isEmpty then none
  else (addressChars? (chars.length + 1) chars).map fun cs => (String.ofList cs, after)

def handle? (c : Cursor) : Option (Token × Cursor) := do
  let (handle, c) ← tagHandle? c.skipBlanks
  guard (c.peek == ' ')
  let (meaning, c) ← address? c.skipBlanks
  guard (isEnd c.peek)
  some (.handle handle meaning, c)

def directive? (c : Cursor) : Option (Token × Cursor) := do
  let (name, c) := c.advance.takeWhile isNameChar
  guard (!name.isEmpty && isEnd c.peek)
  let (token, c) ←
    match String.ofList name with
    | "YAML" => version? c
    | "TAG" => handle? c
    | _ => some (.otherDirective, c.skipWhile fun x => !isLineEnd x)
  let c ← ignoredLine c
  some (token, c)

/-! ## Anchors and tags -/

def name? (c : Cursor) : Option (String × Cursor) :=
  let (name, after) := c.takeWhile isNameChar
  if !name.isEmpty && (isGap after.peek || ("?:,]\x7d%@\x60".toList).contains after.peek) then
    some (String.ofList name, after)
  else none

/-- The characters up to the next gap hold an exclamation mark. -/
def hasHandle (c : Cursor) : Bool :=
  (c.rest.takeWhile fun x => !isEnd x).contains '!'

def tag? (c : Cursor) : Option (WrittenTag × Cursor) := do
  let (tag, c) ←
    if c.peekAt 1 == '<' then
      match address? (c.advanceBy 2) with
      | some (suffix, c) =>
        if c.peek == '>' then some (⟨none, suffix⟩, c.advance) else none
      | none => none
    else if isGap (c.peekAt 1) then some (⟨none, "!"⟩, c.advance)
    else do
      let (handle, c) ← if hasHandle c.advance then tagHandle? c else some ("!", c.advance)
      let (suffix, c) ← address? c
      some (⟨some handle, suffix⟩, c)
  guard (isEnd c.peek)
  some (tag, c)

/-! ## Steps -/

def fetchEnd (l : Lexer) : Option Lexer :=
  (l.unwind (-1)).dropKey.map fun l => { l with keyAllowed := false, keys := [] }.emit .streamEnd

/-- A directive, or a mark of a document: it ends all blocks. -/
def fetchTopLevel (l : Lexer) (read : Cursor → Option (Token × Cursor)) : Option Lexer := do
  let l ← (l.unwind (-1)).dropKey
  let (token, cursor) ← read l.cursor
  some ({ l with keyAllowed := false, cursor }.emit token)

def fetchOpening (l : Lexer) (t : Token) : Option Lexer :=
  l.noteKey.map fun l => pass { l with depth := l.depth + 1, keyAllowed := true } 1 t

def fetchClosing (l : Lexer) (t : Token) : Option Lexer := do
  guard l.inFlow
  let l ← l.dropKey
  some (pass { l with depth := l.depth - 1, keyAllowed := false } 1 t)

def fetchComma (l : Lexer) : Option Lexer :=
  (dropKey { l with keyAllowed := true }).map fun l => l.pass 1 .flowEntry

/-- Opens a block where it has to begin: outside brackets, and where a key may begin. -/
def beginBlock (l : Lexer) (t : Token) : Option Lexer :=
  if l.inFlow then some l
  else if l.keyAllowed then
    some (((l.openBlock l.column).map fun l => l.emit t).getD l)
  else none

def fetchItem (l : Lexer) : Option Lexer := do
  let l ← l.beginBlock .sequenceStart
  let l ← dropKey { l with keyAllowed := true }
  some (l.pass 1 .item)

def fetchKey (l : Lexer) : Option Lexer := do
  let l ← l.beginBlock .mappingStart
  let l ← dropKey { l with keyAllowed := !l.inFlow }
  some (l.pass 1 .key)

/-- The colon of a value: it makes the possible key a key. -/
def fetchValue (l : Lexer) : Option Lexer :=
  match l.keys.lookup l.depth with
  | some k =>
    let l := { l with keys := l.keys.filter fun e => e.1 != l.depth }.insertAt k.position .key
    let l :=
      if l.inFlow then l
      else ((l.openBlock k.column).map fun l => l.insertAt k.position .mappingStart).getD l
    some (pass { l with keyAllowed := false } 1 .value)
  | none =>
    (l.beginBlock .mappingStart).map fun l =>
      pass { l with keyAllowed := !l.inFlow } 1 .value

/-- Something that may be a key, or begin one. -/
def fetchSimple (l : Lexer) (read : Cursor → Option (Token × Cursor)) : Option Lexer := do
  let l ← l.noteKey
  let (token, cursor) ← read l.cursor
  some ({ l with keyAllowed := false, cursor }.emit token)

def fetchBlock (l : Lexer) (fold : Bool) : Option Lexer := do
  let l ← dropKey { l with keyAllowed := true }
  let (text, cursor) ← blockScalar fold l.indent l.cursor
  some ({ l with cursor }.emit (.scalar text false))

/-- A plain scalar; where a line has ended behind it, a key may begin. -/
def fetchPlain (l : Lexer) : Option Lexer :=
  l.noteKey.map fun l =>
    let (text, newLine, cursor) := plainScalar l.inFlow l.indent l.cursor
    { l with keyAllowed := newLine, cursor }.emit (.scalar text true)

def beginsPlain (l : Lexer) : Bool :=
  let x := l.cursor.peek
  !(isGap x || ("-?:,[]\x7b\x7d#&*!|>'\"%@\x60".toList).contains x) ||
    (!isGap (l.cursor.peekAt 1) && (x == '-' || (!l.inFlow && (x == '?' || x == ':'))))

def mark (t : Token) (c : Cursor) : Option (Token × Cursor) := some (t, c.advanceBy 3)

def fetch (l : Lexer) : Option Lexer := do
  let l ← l.toNext.dropStale
  let l := l.unwind l.column
  let c := l.cursor
  let gapNext := isGap (c.peekAt 1)
  let first := c.column == 0
  let x := c.peek
  if c.rest.isEmpty then l.fetchEnd
  else if first && x == '%' then l.fetchTopLevel directive?
  else if first && x == '-' && c.atDocumentMark then l.fetchTopLevel (mark .documentStart)
  else if first && x == '.' && c.atDocumentMark then l.fetchTopLevel (mark .documentEnd)
  else if x == '[' then l.fetchOpening .flowSequenceStart
  else if x == '\x7b' then l.fetchOpening .flowMappingStart
  else if x == ']' then l.fetchClosing .flowSequenceEnd
  else if x == '\x7d' then l.fetchClosing .flowMappingEnd
  else if x == ',' then l.fetchComma
  else if x == '-' && gapNext then l.fetchItem
  else if x == '?' && (l.inFlow || gapNext) then l.fetchKey
  else if x == ':' && (l.inFlow || gapNext) then l.fetchValue
  else if x == '*' then
    l.fetchSimple fun c => (name? c.advance).map fun (n, c) => (.reference n, c)
  else if x == '&' then
    l.fetchSimple fun c => (name? c.advance).map fun (n, c) => (.anchor n, c)
  else if x == '!' then l.fetchSimple fun c => (tag? c).map fun (t, c) => (.tag t, c)
  else if x == '|' && !l.inFlow then l.fetchBlock false
  else if x == '>' && !l.inFlow then l.fetchBlock true
  else if x == '\'' || x == '"' then
    l.fetchSimple (quotedScalar (x == '"'))
  else if l.beginsPlain then l.fetchPlain
  else none

/-- The tokens that stand in front of every place where a key may have begun: whether the
next one is a key shows only further on. -/
def certain (l : Lexer) : List Token :=
  let places := (l.keys.filter fun e => !l.isStale e.2).map fun e => e.2.position
  l.tokens.toList.take (places.foldl min l.tokens.size)

/-- Adds tokens up to the end of the text, or to where it breaks off.  A text that breaks
off has no tokens beyond the certain ones. -/
def run : (fuel : Nat) → Lexer → Option (List Token)
  | 0, _ => none
  | fuel + 1, l =>
    match l.fetch with
    | none => none
    | some next =>
      match next.tokens.back? with
      | some .streamEnd => some next.tokens.toList
      | some (.broken f) => some (l.certain ++ [.broken f])
      | _ => run fuel next

end Lexer

/-- The tokens of a text; none of a text with a forbidden character. -/
def Token.scan (s : String) : Option (List Token) :=
  let cs := s.toList
  if cs.all isAllowed then Lexer.run (cs.length + 2) { cursor := ⟨cs, 0, 0, 0⟩ } else none

example : Token.scan "a" = some [.scalar "a" true, .streamEnd] := by decide +kernel

end Marking.Yaml
