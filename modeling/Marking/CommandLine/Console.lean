/-
# Marking.CommandLine.Console -- what a command says

A command says lines and tables, complains, and may end early: with an exit code, or
in a fault that it does not handle.  What it said by then stays said.
-/
import Marking.Text.Markup

set_option autoImplicit false

namespace Marking.CommandLine

/-- A line of output: a text, or the cells of a row of a table. -/
inductive Line where
  | text (s : String)
  | row (cells : List String)
  deriving DecidableEq, Repr

/-- What was said, and what was complained about. -/
structure Console where
  said : List Line := []
  complained : List String := []
  deriving Repr

/-- Why a command ends early. -/
inductive Ending where
  | exit (code : Nat)
  | fault (f : Fault)
  deriving Repr

/-- A part of a command. -/
abbrev Talk := ExceptT Ending (StateM Console)

namespace Talk

/-- A fault that no part of the command handles. -/
def settled {α : Type} : Except Fault α → Talk α
  | .ok a => pure a
  | .error f => throw (.fault f)

def linesOf (s : String) : List String := (Text.splitAt '\n' s.toList).map String.ofList

def sayPlain (s : String) : Talk Unit :=
  modify fun c => { c with said := c.said ++ (linesOf s).map Line.text }

def say (s : String) : Talk Unit := do sayPlain (← settled (Text.Markup.plain s))

/-- Complains in a text with styles. -/
def complain (s : String) : Talk Unit := do
  let lines := linesOf (← settled (Text.Markup.plain s))
  modify fun c => { c with complained := c.complained ++ lines }

def fail {α : Type} (s : String) : Talk α := do
  complain ("[red]Error:[/red] " ++ s)
  throw (.exit 1)

end Talk

structure Table where
  title : String
  head : List String
  rows : List (List String) := []

namespace Table

/-- A tab goes on to the next column of which this is a divisor. -/
def tabWidth : Nat := 8

/-- The characters from a column on, with blanks in the place of tabs. -/
def expandTabs (column : Nat) : List Char → List Char
  | [] => []
  | c :: cs =>
    if c == '\t' then
      let width := tabWidth - column % tabWidth
      List.replicate width ' ' ++ expandTabs (column + width) cs
    else c :: expandTabs (column + 1) cs

def cellLine (s : String) : String := String.ofList (Text.trim (expandTabs 0 s.toList))

/-- The lines of a row: as many as the cell with most lines has. -/
def rowLines (cells : List String) : List Line :=
  let parts := cells.map fun c => (Talk.linesOf c).map cellLine
  let height := (parts.map List.length).foldl max 1
  (List.range height).map fun i => .row (parts.map fun p => p.getD i "")

def say (t : Table) : Talk Unit := do
  let rows ← (t.head :: t.rows).mapM fun cells =>
    cells.mapM fun c => Talk.settled (Text.Markup.plain c)
  Talk.say t.title
  modify fun c => { c with said := c.said ++ rows.flatMap rowLines }

end Table

end Marking.CommandLine
