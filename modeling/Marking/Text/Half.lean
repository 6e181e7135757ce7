/-
# Marking.Text.Half -- halves of a pair

Some numbers stand for no character alone: a first half and a second half together are
one character beyond the basic plane.  A document may still write a half alone.  A text
keeps it as a character for private use, and whoever writes the text by its code points
writes the number of the half.
-/

set_option autoImplicit false

namespace Marking.Text

def firstHalf : Nat := 0xD800

def halves : Nat := 0x800

def isHalf (n : Nat) : Bool := firstHalf ≤ n && n < firstHalf + halves

/-- The private character that stands for the first half. -/
def halfMark : Nat := 0xFA800

/-- The character with a number, which may be a half. -/
def characterOf (n : Nat) : Char :=
  Char.ofNat (if isHalf n then halfMark + (n - firstHalf) else n)

/-- The half that a character stands for. -/
def half? (c : Char) : Option Nat :=
  if halfMark ≤ c.toNat && c.toNat < halfMark + halves then
    some (firstHalf + (c.toNat - halfMark))
  else none

/-- The number that a character is written by. -/
def codeOf (c : Char) : Nat := (half? c).getD c.toNat

example : codeOf (characterOf 0xDFFF) = 0xDFFF ∧ codeOf (characterOf 65) = 65 := by decide +kernel

end Marking.Text
