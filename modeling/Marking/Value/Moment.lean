/-
# Marking.Value.Moment -- the calendar, and the order of moments

Days are counted from the first day of the first year.  Moments with a shift from
universal time are the same when they are the same instant; others when all their parts
are the same.
-/
import Marking.Value

set_option autoImplicit false

namespace Marking.Moment

/-- The year has one day more. -/
def isLong (year : Nat) : Bool := year % 4 == 0 && (year % 100 != 0 || year % 400 == 0)

def daysIn (year month : Nat) : Nat :=
  if month == 2 then if isLong year then 29 else 28
  else if [4, 6, 9, 11].contains month then 30
  else 31

def daysBefore (year : Nat) : Nat :=
  let y := year - 1
  365 * y + y / 4 - y / 100 + y / 400

/-- How many days lie before the day of a moment. -/
def dayNumber (m : Moment) : Nat :=
  let months := (List.range (m.month - 1)).foldl (fun days i => days + daysIn m.year (i + 1)) 0
  daysBefore m.year + months + m.day

/-- Minutes up to a moment, by universal time where its shift is known. -/
def minuteNumber (m : Moment) : Int :=
  match m.time with
  | none => m.dayNumber * 1440
  | some (h, min, _, _) => m.dayNumber * 1440 + h * 60 + min - m.offset.getD 0

/-- Millionths of a second up to a moment. -/
def instant (m : Moment) : Int :=
  match m.time with
  | none => m.minuteNumber * 60000000
  | some (_, _, s, us) => m.minuteNumber * 60000000 + s * 1000000 + us

def same (a b : Moment) : Bool :=
  a.time.isSome == b.time.isSome && a.offset.isSome == b.offset.isSome && a.instant == b.instant

example : same ⟨2024, 1, 1, some (1, 0, 0, 0), some 60⟩ ⟨2024, 1, 1, some (0, 0, 0, 0), some 0⟩ =
    true := by decide +kernel

end Marking.Moment
