/-
# Marking.Yaml.Scalar -- the values of texts by their kind

`scalarValue` reads the value that the text of a scalar writes.  The kind may have been
stated without regard to the text, so every reader here accepts more than the forms by
which plain scalars are told apart, and refuses what it cannot read with a fault of its
own.
-/
import Marking.Number.Decimal
import Marking.Value.Integer
import Marking.Yaml.Tag

set_option autoImplicit false

namespace Marking.Yaml

/-- The first character is asked for and is none. -/
def requireFirst (cs : List Char) : Except Fault Unit :=
  if cs.isEmpty then .error .noSuchPosition else .ok ()

/-- Numbers in sixtieths, the largest part first. -/
def sexagesimal (parts : List Int) : Int := parts.foldl (fun n d => 60 * n + d) 0

/-- The text without underscores and without the sign in front. -/
def unsignedDigits (s : String) : Except Fault (Bool × List Char) :=
  let cs := s.toList.filter (· != '_')
  (requireFirst cs).map fun () => (cs.head? == some '-', Tag.unsigned cs)

def unsignedInteger (cs : List Char) : Except Fault Int :=
  match cs with
  | ['0'] => .ok 0
  | '0' :: 'b' :: ds => Value.integerIn 2 ds
  | '0' :: 'x' :: ds => Value.integerIn 16 ds
  | '0' :: ds => Value.integerIn 8 ('0' :: ds)
  | cs =>
    if cs.contains ':' then
      ((Tag.byColon cs).mapM (Value.integerIn 10)).map sexagesimal
    else (requireFirst cs).bind fun () => Value.integerIn 10 cs

def integerOf (s : String) : Except Fault Int := do
  let (negative, cs) ← unsignedDigits s
  let n ← unsignedInteger cs
  .ok (if negative then -n else n)

/-- A character as it counts in a number: a digit of any script is an ASCII digit, and a
blank of any script a blank. -/
def numberChar (c : Char) : Char :=
  if c.toNat < 127 then c
  else if Number.isMargin c then ' '
  else
    match Text.digit? c with
    | some d => Char.ofNat (48 + d)
    | none => c

/-- The characters without the blanks that may stand around a number. -/
def withoutMargins (cs : List Char) : List Char :=
  ((cs.dropWhile Number.isMargin).reverse.dropWhile Number.isMargin).reverse

def double? (cs : List Char) : Option Float :=
  let (negative, cs) := Number.splitSign (withoutMargins (cs.map numberChar))
  let word := String.ofList (cs.map Char.toLower)
  if word == "inf" || word == "infinity" then some (Number.signed negative (1.0 / 0.0))
  else if word == "nan" then some (0.0 / 0.0)
  else
    let (whole, rest) := Number.spanDigits cs
    let (fraction, rest) := Stamp.fraction rest
    if whole.isEmpty && fraction.isEmpty then none
    else
      let exponent : Option Int :=
        match rest with
        | [] => some 0
        | e :: rest =>
          if e == 'e' || e == 'E' then
            match Number.readExponent? rest with
            | some (e, []) => some e
            | _ => none
          else none
      exponent.map fun e =>
        Number.ofDecimal negative (Number.ofDigits (whole ++ fraction)) (e - fraction.length)

def double (cs : List Char) : Except Fault Float :=
  match double? cs with
  | some x => .ok x
  | none => .error (.badFloat (Text.quoted (String.ofList cs)))

/-- The exponents from which on a power of sixty is larger than every double. -/
def sixtyLimit : Nat := 174

/-- Doubles in sixtieths, the smallest part first, added up from there; `place` counts
the parts before. -/
def sixtieths (sum : Float) (place : Nat) : List Float → Except Fault Float
  | [] => .ok sum
  | x :: xs =>
    if place < sixtyLimit then sixtieths (sum + x * Float.ofNat (Nat.pow 60 place)) (place + 1) xs
    else .error .tooLargeForDouble

def unsignedDouble (cs : List Char) : Except Fault Float :=
  if cs == ".inf".toList then .ok (1.0 / 0.0)
  else if cs == ".nan".toList then .ok (0.0 / 0.0)
  else if cs.contains ':' then
    ((Tag.byColon cs).mapM double).bind fun xs => sixtieths 0.0 0 xs.reverse
  else double cs

def doubleOf (s : String) : Except Fault Float := do
  let (negative, cs) ← unsignedDigits s
  let x ← unsignedDouble (Text.lower (String.ofList cs)).toList
  .ok (Number.signed negative x)

def truthOf (s : String) : Except Fault Bool :=
  match Tag.truthWords.lookup (Text.lower s) with
  | some b => .ok b
  | none => .error (.foreign .key (Text.quoted (Text.lower s)))

def momentOf (s : String) : Except Fault Moment :=
  match Stamp.read? s.toList with
  | some stamp => stamp.moment
  | none => .error (.missingAttribute "NoneType" "groupdict")

/-- The value of a character that stands for six bits. -/
def sixBits? (c : Char) : Option Nat :=
  if c.isUpper then some (c.toNat - 65)
  else if c.isLower then some (c.toNat - 71)
  else if c.isDigit then some (c.toNat + 4)
  else if c == '+' then some 62
  else if c == '/' then some 63
  else none

/-- The bytes that groups of four characters stand for.  `held` are the bits that wait
for the next character, `filled` the place in the group and `pads` the signs that fill
it up; characters of no meaning are passed over. -/
def bytesFrom? (held filled pads : Nat) : List Char → Option (List UInt8)
  | [] => if filled == 0 then some [] else none
  | c :: cs =>
    if c == '=' then
      if 2 ≤ filled && 4 ≤ filled + pads + 1 then some []
      else bytesFrom? held filled (if 2 ≤ filled then pads + 1 else pads) cs
    else
      match sixBits? c with
      | none => bytesFrom? held filled pads cs
      | some n =>
        match filled with
        | 0 => bytesFrom? n 1 0 cs
        | 1 => (bytesFrom? (n % 16) 2 0 cs).map (UInt8.ofNat (held * 4 + n / 16) :: ·)
        | 2 => (bytesFrom? (n % 4) 3 0 cs).map (UInt8.ofNat (held * 16 + n / 4) :: ·)
        | _ => (bytesFrom? 0 0 0 cs).map (UInt8.ofNat (held * 64 + n) :: ·)

def bytesOf (s : String) : Except Fault (List UInt8) :=
  if s.toList.all fun c => c.toNat < 128 then
    match bytesFrom? 0 0 0 s.toList with
    | some bs => .ok bs
    | none => .error .malformedDocument
  else .error .malformedDocument

def scalarValue (tag : Tag) (s : String) : Except Fault Value :=
  match tag with
  | .null => .ok .null
  | .truth => (truthOf s).map .bool
  | .integer => (integerOf s).map .int
  | .float => (doubleOf s).map .float
  | .text => .ok (.str s)
  | .bytes => (bytesOf s).map .bytes
  | .moment => (momentOf s).map .moment
  | _ => .error .malformedDocument

end Marking.Yaml
