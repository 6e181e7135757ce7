/-
# Marking.Number.Integer -- whole numbers written as texts

A written whole number has blanks around it, a sign at most, for the bases two, eight
and sixteen a zero and a letter that name the base, and digits of the base with single
underscores between them.  Digits may be those of any script, leading zeros are
allowed, and from ten on letters are digits.  A number to the base ten may have 4300
digits.

The digits are read before what stands behind them, so a number that is too long is
refused as such even if something else follows it.
-/
import Marking.Text.Blank
import Marking.Text.Digit

set_option autoImplicit false

namespace Marking.Number

/-- Why a text writes no whole number. -/
inductive Misread where
  | malformed
  | tooLong (digits : Nat)
  deriving DecidableEq, Repr

/-- The most digits that a number to the base ten may have. -/
def digitLimit : Nat := 4300

/-- A blank that may stand around a number: of the ASCII characters these are the blank
and those that move the place of writing. -/
def isMargin (c : Char) : Bool :=
  c == ' ' || (9 ≤ c.toNat && c.toNat ≤ 13) || (127 ≤ c.toNat && Text.isBlank c)

def digitOrLetter? (c : Char) : Option Nat :=
  if c.isLower then some (c.toNat - 87)
  else if c.isUpper then some (c.toNat - 55)
  else Text.digit? c

def digitOf? (base : Nat) (c : Char) : Option Nat := (digitOrLetter? c).filter (· < base)

/-- The digit values of a run of digits in which an underscore may stand between two
digits, and what follows the run.  `afterDigit` says whether a digit was just read. -/
def spanNumeral (base : Nat) : (afterDigit : Bool) → List Char → Option (List Nat × List Char)
  | afterDigit, [] => if afterDigit then some ([], []) else none
  | afterDigit, c :: cs =>
    if c == '_' then if afterDigit then spanNumeral base false cs else none
    else
      match digitOf? base c with
      | some d => (spanNumeral base true cs).map fun (ds, rest) => (d :: ds, rest)
      | none => if afterDigit then some ([], c :: cs) else none

/-- The number with the given digits, the leading one first. -/
def ofDigitsIn (base : Nat) (ds : List Nat) : Nat :=
  ds.foldl (fun n d => base * n + d) 0

def ofDigits (ds : List Nat) : Nat := ofDigitsIn 10 ds

/-- Splits a leading sign off; true stands for minus. -/
def splitSign : List Char → Bool × List Char
  | '-' :: cs => (true, cs)
  | '+' :: cs => (false, cs)
  | cs => (false, cs)

/-- The small letter that names a base behind a zero. -/
def baseLetter? (base : Nat) : Option Char :=
  [(2, 'b'), (8, 'o'), (16, 'x')].lookup base

/-- The characters behind the name of the base, with an underscore behind that. -/
def withoutBase (base : Nat) (cs : List Char) : List Char :=
  match cs with
  | zero :: letter :: rest =>
    if Text.digit? zero == some 0 && baseLetter? base == some letter.toLower then
      match rest with
      | '_' :: rest => rest
      | rest => rest
    else cs
  | cs => cs

def readInteger (base : Nat) (cs : List Char) : Except Misread Int :=
  let (negative, cs) := splitSign (cs.dropWhile isMargin)
  match spanNumeral base false (withoutBase base cs) with
  | none => .error .malformed
  | some (ds, rest) =>
    if base == 10 && digitLimit < ds.length then .error (.tooLong ds.length)
    else if rest.all isMargin then
      let n : Int := ofDigitsIn base ds
      .ok (if negative then -n else n)
    else .error .malformed

example : (readInteger 10 " -1_000 ".toList).toOption = some (-1000) := by decide +kernel
example : (readInteger 10 "1__0".toList).toOption = none := by decide +kernel
example : (readInteger 16 "0x_fF".toList).toOption = some 255 := by decide +kernel

end Marking.Number
