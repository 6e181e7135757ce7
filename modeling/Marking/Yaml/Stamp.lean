/-
# Marking.Yaml.Stamp -- dates and times of day as they are written

A date is a year of four digits, a month and a day.  A time of day may follow behind
a letter or blanks, with a fraction of a second and a shift from universal time.
`Stamp.read?` takes the text apart, `Stamp.moment` checks the parts against the
calendar.
-/
import Marking.Fault
import Marking.Number.Decimal
import Marking.Value.Moment
import Marking.Value.Text

set_option autoImplicit false

namespace Marking.Yaml

structure Clock where
  hour : Nat
  minute : Nat
  second : Nat
  /-- The digits behind the point. -/
  fraction : List Nat
  /-- Minutes east of universal time. -/
  shift : Option Int
  deriving DecidableEq, Repr

/-- A date as it is written, with a time of day or without one. -/
structure Stamp where
  year : Nat
  month : Nat
  day : Nat
  clock : Option Clock
  deriving DecidableEq, Repr

namespace Stamp

def digits? (least most : Nat) (cs : List Char) : Option (Nat × List Char) :=
  let ds := (cs.take most).takeWhile Char.isDigit
  if ds.length < least then none
  else some (Number.ofDigits (ds.map fun d => d.toNat - 48), cs.drop ds.length)

def char? (c : Char) : List Char → Option (List Char)
  | [] => none
  | x :: rest => if x == c then some rest else none

def isGapChar (c : Char) : Bool := c == ' ' || c == '\t'

/-- What stands between the date and the time of day. -/
def afterGap? : List Char → Option (List Char)
  | [] => none
  | c :: rest =>
    if c == 'T' || c == 't' then some rest
    else if isGapChar c then some (rest.dropWhile isGapChar)
    else none

/-- A point and digits, which may be missing. -/
def fraction : List Char → List Nat × List Char
  | '.' :: rest => Number.spanDigits rest
  | cs => ([], cs)

def signedShift? (negative : Bool) (cs : List Char) : Option Int := do
  let (hours, cs) ← digits? 1 2 cs
  let minutes ←
    match cs with
    | [] => some 0
    | ':' :: rest =>
      match digits? 2 2 rest with
      | some (n, []) => some n
      | _ => none
    | _ => none
  let total : Int := 60 * hours + minutes
  some (if negative then -total else total)

/-- The shift from universal time at the end, which may be missing. -/
def shift? (cs : List Char) : Option (Option Int) :=
  if cs.isEmpty then some none
  else
    match cs.dropWhile isGapChar with
    | ['Z'] => some (some 0)
    | '+' :: rest => (signedShift? false rest).map some
    | '-' :: rest => (signedShift? true rest).map some
    | _ => none

def clock? (cs : List Char) : Option Clock := do
  let (hour, cs) ← digits? 1 2 cs
  let (minute, cs) ← (char? ':' cs).bind (digits? 2 2)
  let (second, cs) ← (char? ':' cs).bind (digits? 2 2)
  let (digits, cs) := fraction cs
  let shift ← shift? cs
  some ⟨hour, minute, second, digits, shift⟩

/-- The characters without a line feed at their end. -/
def withoutLastBreak (cs : List Char) : List Char :=
  match cs.reverse with
  | '\n' :: rest => rest.reverse
  | _ => cs

def parts? (cs : List Char) : Option Stamp := do
  let (year, cs) ← digits? 4 4 cs
  let (month, cs) ← (char? '-' cs).bind (digits? 1 2)
  let (day, cs) ← (char? '-' cs).bind (digits? 1 2)
  if cs.isEmpty then some ⟨year, month, day, none⟩
  else
    let clock ← (afterGap? cs).bind clock?
    some ⟨year, month, day, some clock⟩

def read? (cs : List Char) : Option Stamp := parts? (withoutLastBreak cs)

/-- Refuses a date that is in no calendar. -/
def requireDate (s : Stamp) : Except Fault Unit :=
  if s.year == 0 then .error (.foreign .value "year 0 is out of range")
  else if s.month == 0 || 12 < s.month then .error (.foreign .value "month must be in 1..12")
  else if s.day == 0 || Moment.daysIn s.year s.month < s.day then
    .error (.foreign .value "day is out of range for month")
  else .ok ()

/-- Refuses a time that no day has. -/
def requireClock (c : Clock) : Except Fault Unit :=
  if 23 < c.hour then .error (.foreign .value "hour must be in 0..23")
  else if 59 < c.minute then .error (.foreign .value "minute must be in 0..59")
  else if 59 < c.second then .error (.foreign .value "second must be in 0..59")
  else .ok ()

/-- Refuses a shift of a whole day or more. -/
def requireShift (c : Clock) : Except Fault Unit :=
  match c.shift with
  | none => .ok ()
  | some n =>
    if n.natAbs < 1440 then .ok ()
    else
      .error (.foreign .value ("offset must be a timedelta strictly between " ++
        "-timedelta(hours=24) and timedelta(hours=24), not " ++ Moment.spanExpression n ++ "."))

/-- The millionths of a second that the digits behind a point write. -/
def micro (digits : List Nat) : Nat :=
  Number.ofDigits ((digits ++ List.replicate 6 0).take 6)

def moment (s : Stamp) : Except Fault Moment :=
  match s.clock with
  | none => s.requireDate.map fun () => ⟨s.year, s.month, s.day, none, none⟩
  | some c => do
    requireShift c
    s.requireDate
    requireClock c
    .ok ⟨s.year, s.month, s.day, some (c.hour, c.minute, c.second, micro c.fraction), c.shift⟩

example : (read? "2024-02-30".toList).map (fun s => s.moment.toBool) = some false := by
  decide +kernel

end Stamp

end Marking.Yaml
