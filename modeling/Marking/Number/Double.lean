/-
# Marking.Number.Double -- what a double stands for

A finite double is a sign, a whole mantissa and a power of two (`parts`).  Whole
numbers and doubles are compared by these exact values.
-/

set_option autoImplicit false

namespace Marking.Number

inductive Parts where
  | nan
  | infinite (negative : Bool)
  /-- The number `± mantissa · 2 ^ exponent`. -/
  | finite (negative : Bool) (mantissa : Nat) (exponent : Int)
  deriving DecidableEq, Repr

/-- The value that a bit pattern stands for. -/
def partsOfBits (bits : Nat) : Parts :=
  let negative := bits / Nat.pow 2 63 % 2 == 1
  let scale : Nat := bits / Nat.pow 2 52 % Nat.pow 2 11
  let fraction : Nat := bits % Nat.pow 2 52
  if scale == 2047 then
    if fraction == 0 then .infinite negative else .nan
  else if scale == 0 then .finite negative fraction (-1074)
  else .finite negative (Nat.pow 2 52 + fraction) ((scale : Int) - 1075)

def parts (x : Float) : Parts :=
  partsOfBits x.toBits.toNat

/-- A number `numerator / denominator` with a positive denominator, an infinity
or no number at all. -/
inductive Exact where
  | nan
  | infinite (negative : Bool)
  | ratio (numerator : Int) (denominator : Nat)

def Exact.ofInt (n : Int) : Exact := .ratio n 1

def Exact.ofFloat (x : Float) : Exact :=
  match parts x with
  | .nan => .nan
  | .infinite negative => .infinite negative
  | .finite negative m e =>
    let signed : Int := if negative then -(m : Int) else m
    if 0 ≤ e then .ratio (signed * Nat.pow 2 e.toNat) 1 else .ratio signed (Nat.pow 2 (-e).toNat)

/-- Equality of values; no number equals nothing. -/
def Exact.eq : Exact → Exact → Bool
  | .infinite a, .infinite b => a == b
  | .ratio n d, .ratio m e => n * e == m * d
  | _, _ => false

/-- Strict order of values; no number is ordered with nothing. -/
def Exact.lt : Exact → Exact → Bool
  | .infinite a, .infinite b => a && !b
  | .infinite a, .ratio _ _ => a
  | .ratio _ _, .infinite b => !b
  | .ratio n d, .ratio m e => n * e < m * d
  | _, _ => false

def Exact.isZero : Exact → Bool
  | .ratio n _ => n == 0
  | _ => false

end Marking.Number
