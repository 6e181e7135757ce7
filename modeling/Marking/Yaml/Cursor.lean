/-
# Marking.Yaml.Cursor -- a place in a document

A cursor holds the rest of the text, and the line and the column of its first
character.  The null character stands for the end of the text: it is not allowed
inside one.
-/

set_option autoImplicit false

namespace Marking.Yaml

def endMark : Char := Char.ofNat 0

def isBreak (c : Char) : Bool :=
  c == '\n' || c == '\r' || c.toNat == 0x85 || c.toNat == 0x2028 || c.toNat == 0x2029

def isLineEnd (c : Char) : Bool := c == endMark || isBreak c

/-- A blank, a tab, or the end of a line or of the text. -/
def isGap (c : Char) : Bool := c == ' ' || c == '\t' || isLineEnd c

def isAllowed (c : Char) : Bool :=
  let n := c.toNat
  n == 9 || n == 10 || n == 13 || (0x20 ≤ n && n ≤ 0x7E) || n == 0x85 ||
    (0xA0 ≤ n && n ≤ 0xD7FF) || (0xE000 ≤ n && n ≤ 0xFFFD) || 0x10000 ≤ n

def isNameChar (c : Char) : Bool := c.isAlphanum || c == '-' || c == '_'

structure Cursor where
  rest : List Char
  index : Nat := 0
  line : Nat := 0
  column : Nat := 0

namespace Cursor

def peek (c : Cursor) : Char := c.rest.headD endMark

def peekAt (c : Cursor) (n : Nat) : Char := c.rest.getD n endMark

/-- The text at the place begins with the given characters. -/
def looksAt (c : Cursor) (cs : List Char) : Bool := cs.isPrefixOf c.rest

def advance (c : Cursor) : Cursor :=
  match c.rest with
  | [] => c
  | x :: rest =>
    let ends := isBreak x && !(x == '\r' && rest.headD endMark == '\n')
    { rest
      index := c.index + 1
      line := if ends then c.line + 1 else c.line
      column := if ends then 0 else if x.toNat == 0xFEFF then c.column else c.column + 1 }

def advanceBy (c : Cursor) : Nat → Cursor
  | 0 => c
  | n + 1 => c.advance.advanceBy n

def takeWhile (c : Cursor) (test : Char → Bool) : List Char × Cursor :=
  let taken := c.rest.takeWhile test
  (taken, c.advanceBy taken.length)

def skipWhile (c : Cursor) (test : Char → Bool) : Cursor := (c.takeWhile test).2

def skipBlanks (c : Cursor) : Cursor := c.skipWhile (· == ' ')

/-- Passes blanks as long as the column is below a bound. -/
def skipBlanksTo (c : Cursor) (column : Nat) : Cursor :=
  c.advanceBy (min (column - c.column) (c.rest.takeWhile (· == ' ')).length)

/-- Passes the end of a line: the break that it stands for, if there is one. -/
def lineBreak (c : Cursor) : List Char × Cursor :=
  let x := c.peek
  if x == '\r' && c.peekAt 1 == '\n' then (['\n'], c.advanceBy 2)
  else if x == '\r' || x == '\n' || x.toNat == 0x85 then (['\n'], c.advance)
  else if x.toNat == 0x2028 || x.toNat == 0x2029 then ([x], c.advance)
  else ([], c)

/-- The place begins a line with three of one character and a gap: the beginning or
the end of a document. -/
def atDocumentMark (c : Cursor) : Bool :=
  (c.looksAt ['-', '-', '-'] || c.looksAt ['.', '.', '.']) && isGap (c.peekAt 3)

end Cursor

end Marking.Yaml
