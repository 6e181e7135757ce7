/-
# Marking.Number.Shortest -- the shortest decimal of a double

`shortest m q` is the decimal with the fewest digits among those that read back
as the double `m · 2 ^ q`, and the nearest of them.  For one digit, two digits
and so on it tests the two neighbours of the value on the decimal grid with that
many digits, in whole-number arithmetic, against the interval of numbers that
round to the double; seventeen digits always suffice.

`layout` is the written form: between 10 ^ -4 and 10 ^ 16 the point is placed among
the digits and at least one digit follows it; outside, an exponent of at least
two digits follows.
-/
import Marking.Number.Double

set_option autoImplicit false

namespace Marking.Number

/-- The decimal `digits · 10 ^ exponent`. -/
structure Decimal where
  digits : Nat
  exponent : Int
  deriving DecidableEq, Repr

/-- `a · 10 ^ s` against `b · 2 ^ t`, as whole numbers of one scale. -/
def scaled (a : Nat) (s : Int) (b : Nat) (t : Int) : Nat × Nat :=
  (a * Nat.pow 10 s.toNat * Nat.pow 2 (-t).toNat, b * Nat.pow 2 t.toNat * Nat.pow 10 (-s).toNat)

/-- The interval of numbers that round to `m · 2 ^ q`, in units of `2 ^ (q - 2)`. -/
def roundingInterval (m : Nat) (q : Int) : Nat × Nat :=
  (if m == Nat.pow 2 52 && q > -1074 then 4 * m - 1 else 4 * m - 2, 4 * m + 2)

/-- `c · 10 ^ s` rounds to `m · 2 ^ q`; the ends of the interval do when `m` is even. -/
def readsBack (m : Nat) (q : Int) (c : Nat) (s : Int) : Bool :=
  let (lo, hi) := roundingInterval m q
  let (a, l) := scaled c s lo (q - 2)
  let (b, h) := scaled c s hi (q - 2)
  if m % 2 == 0 then l ≤ a && b ≤ h else l < a && b < h

/-- The power of ten at or below `n / d`, searched downward from `10 ^ -k`. -/
def powerBelow (n d : Nat) : (fuel : Nat) → (k : Nat) → Int
  | 0, k => -(k : Int)
  | fuel + 1, k => if d ≤ n * Nat.pow 10 k then -(k : Int) else powerBelow n d fuel (k + 1)

/-- The exponent of the leading decimal digit of `m · 2 ^ q`. -/
def leadingExponent (m : Nat) (q : Int) : Int :=
  let n := m * Nat.pow 2 q.toNat
  let d := Nat.pow 2 (-q).toNat
  if d ≤ n then ((Nat.toDigits 10 (n / d)).length : Int) - 1 else powerBelow n d 400 1

/-- The nearer of the grid points `c` and `c + 1` at scale `s`; a tie goes to the
even one. -/
def nearer (m : Nat) (q : Int) (c : Nat) (s : Int) : Nat :=
  let (a, b) := scaled (2 * c + 1) s (2 * m) q
  if b < a then c else if a < b then c + 1 else if c % 2 == 0 then c else c + 1

/-- The shortest decimal from `width` digits on, `fuel` widths at most. -/
def shortestFrom (m : Nat) (q : Int) (lead : Int) : (fuel : Nat) → (width : Nat) → Decimal
  | 0, width => ⟨m, lead - width⟩
  | fuel + 1, width =>
    let s := lead - width + 1
    let (a, b) := scaled 1 s m q
    let c := b / a
    match readsBack m q c s, readsBack m q (c + 1) s with
    | true, true => ⟨nearer m q c s, s⟩
    | true, false => ⟨c, s⟩
    | false, true => ⟨c + 1, s⟩
    | false, false => shortestFrom m q lead fuel (width + 1)

/-- The shortest decimal that reads back as the positive double `m · 2 ^ q`. -/
def shortest (m : Nat) (q : Int) : Decimal :=
  shortestFrom m q (leadingExponent m q) 17 1

/-- The digits of a decimal without trailing zeros, and the exponent of the first. -/
def Decimal.significant (d : Decimal) : List Char × Int :=
  let cs := Nat.toDigits 10 d.digits
  let kept := (cs.reverse.dropWhile (· == '0')).reverse
  (if kept.isEmpty then ['0'] else kept, d.exponent + (cs.length : Int) - 1)

/-- An exponent with its sign and at least two digits. -/
def exponentText (e : Int) : List Char :=
  let digits := Nat.toDigits 10 e.natAbs
  'e' :: (if e < 0 then '-' else '+') :: (if digits.length < 2 then '0' :: digits else digits)

/-- The written form of the digits `cs` whose first has exponent `e`. -/
def layout (cs : List Char) (e : Int) : List Char :=
  if -4 ≤ e && e < 16 then
    if e < 0 then '0' :: '.' :: List.replicate (-e - 1).toNat '0' ++ cs
    else
      let whole := e.toNat + 1
      let padded := cs ++ List.replicate (whole - cs.length) '0'
      let rest := padded.drop whole
      padded.take whole ++ '.' :: (if rest.isEmpty then ['0'] else rest)
  else
    match cs with
    | [] => []
    | [c] => c :: exponentText e
    | c :: rest => c :: '.' :: rest ++ exponentText e

def floatText (x : Float) : String :=
  match parts x with
  | .nan => "nan"
  | .infinite negative => if negative then "-inf" else "inf"
  | .finite negative m q =>
    let body :=
      if m == 0 then ['0', '.', '0']
      else
        let (cs, e) := (shortest m q).significant
        layout cs e
    String.ofList (if negative then '-' :: body else body)

end Marking.Number
