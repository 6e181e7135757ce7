/-
# Marking.Value.Integer -- the whole number that a value stands for

A truth value is zero or one, a double is cut toward zero, and a text or bytes have
to write a whole number.  Texts with very many digits are refused.
-/
import Marking.Number.Integer
import Marking.Value.Attribute

set_option autoImplicit false

namespace Marking

/-- A literal as messages show it: at most 200 characters. -/
def Value.shownLiteral (literal : String) : String := String.ofList (literal.toList.take 200)

def Value.misread (literal : String) (base : Nat) : Number.Misread → Fault
  | .malformed => .badInteger base (Value.shownLiteral literal)
  | .tooLong digits => .tooManyDigits digits

def Value.integerIn (base : Nat) (cs : List Char) : Except Fault Int :=
  (Number.readInteger base cs).mapError (Value.misread (Text.quoted (String.ofList cs)) base)

/-- The characters of bytes; only an ASCII character stands for itself in a number. -/
def Value.byteChars (bs : List UInt8) : List Char :=
  bs.map fun b => if b.toNat < 128 then Char.ofNat b.toNat else '?'

def Value.integer (v : Value) : Except Fault Int :=
  match v with
  | .int n => .ok n
  | .bool b => .ok (if b then 1 else 0)
  | .float x =>
    match Number.Exact.ofFloat x with
    | .nan => .error .undefinedInteger
    | .infinite _ => .error .infiniteInteger
    | .ratio n d => .ok (n.tdiv d)
  | .str s => Value.integerIn 10 s.toList
  | .bytes bs => (Number.readInteger 10 (Value.byteChars bs)).mapError (Value.misread (bytesText bs) 10)
  | v => .error (.notANumber v.typeName)

end Marking
