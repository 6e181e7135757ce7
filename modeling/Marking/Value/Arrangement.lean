/-
# Marking.Value.Arrangement -- the order in which a set shows numbers

The members of a set lie in a table, and are shown in the order of their places.  The
table has eight places, or the first power of two of them that is more than twice the
number of members once there are five.

A number goes to the place that its residue by a Mersenne prime gives, so equal numbers
of all types go to one place.  If that place is taken, the number goes on to one of the
next places while a whole run of them lies inside the table, and then to places that
depend on ever fewer digits of the residue.

Only numbers have a residue; a set that holds anything else is shown in the order in
which its members came.
-/
import Marking.Number.Double
import Marking.Value

set_option autoImplicit false

namespace Marking.Value

/-- The prime by which residues are taken. -/
def residuePrime : Nat := Nat.pow 2 61 - 1

/-- A residue with the sign of its number; -1 is kept for other uses. -/
def signedResidue (negative : Bool) (n : Nat) : Int :=
  let r : Int := if negative then -(n % residuePrime : Nat) else (n % residuePrime : Nat)
  if r == -1 then -2 else r

def infiniteResidue : Nat := 314159

/-- The residue of a number.  Two to the sixty-first leaves one, so exponents count up to
sixty only. -/
def residue? : Value → Option Int
  | bool b => some (if b then 1 else 0)
  | int n => some (signedResidue (n < 0) n.natAbs)
  | float x =>
    match Number.parts x with
    | .nan => none
    | .infinite negative => some (signedResidue negative infiniteResidue)
    | .finite negative m e => some (signedResidue negative (m * Nat.pow 2 (e % 61).toNat))
  | _ => none

def tableSize (members : Nat) : Nat := if members < 5 then 8 else Nat.pow 2 ((2 * members).log2 + 1)

/-- How many of the next places are tried. -/
def runLength : Nat := 9

/-- The first free place from a place on. -/
def freePlace (size : Nat) (taken : Nat → Bool) : (fuel : Nat) → (place digits : Nat) → Nat
  | 0, place, _ => place
  | fuel + 1, place, digits =>
    let run := if place + runLength < size then runLength + 1 else 1
    match (List.range run).find? fun k => !taken (place + k) with
    | some k => place + k
    | none =>
      let digits := digits / 32
      freePlace size taken fuel ((place * 5 + 1 + digits) % size) digits

/-- The number of steps after which every place has been tried: the digits of a residue
are used up by then, and so is the table. -/
def steps (size : Nat) : Nat := 13 + 2 * size

def placed (size : Nat) (members : List (Value × Int)) : List (Nat × Value) :=
  members.foldl
    (fun table (v, residue) =>
      let digits := (residue % Nat.pow 2 64).toNat
      let place := freePlace size (fun p => table.any fun e => e.1 == p) (steps size)
        (digits % size) digits
      (place, v) :: table)
    []

/-- The members of a set in the order in which they are shown. -/
def arranged (members : List Value) : List Value :=
  match members.mapM fun v => v.residue?.map fun r => (v, r) with
  | none => members
  | some numbers =>
    ((placed (tableSize members.length) numbers).mergeSort fun a b => a.1 ≤ b.1).map Prod.snd

end Marking.Value
