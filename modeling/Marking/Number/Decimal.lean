/-
# Marking.Number.Decimal -- doubles written in decimal

`ofDecimal` is the double nearest to a decimal.  Decimals beyond the range of doubles
become zero or infinite at once, whatever the size of their exponent.
-/
import Marking.Number.Integer

set_option autoImplicit false

namespace Marking.Number

def signed (negative : Bool) (x : Float) : Float := if negative then -x else x

/-- The double nearest to `± mantissa · 10 ^ exponent`. -/
def ofDecimal (negative : Bool) (mantissa : Nat) (exponent : Int) : Float :=
  let digits : Int := (Nat.toDigits 10 mantissa).length
  signed negative
    (if mantissa == 0 || digits + exponent < -400 then 0.0
    else if digits + exponent > 400 then 1.0 / 0.0
    else if exponent < 0 then Float.ofScientific mantissa true exponent.natAbs
    else Float.ofScientific mantissa false exponent.natAbs)

/-- The values of the leading ASCII digits and what follows them. -/
def spanDigits : List Char → List Nat × List Char
  | [] => ([], [])
  | c :: cs =>
    if c.isDigit then
      let (ds, rest) := spanDigits cs
      ((c.toNat - 48) :: ds, rest)
    else ([], c :: cs)

/-- An exponent after its letter: its value and what follows it. -/
def readExponent? (cs : List Char) : Option (Int × List Char) :=
  let (negative, cs) := splitSign cs
  let (ds, rest) := spanDigits cs
  if ds.isEmpty then none
  else some (if negative then -(ofDigits ds : Int) else ofDigits ds, rest)

end Marking.Number
