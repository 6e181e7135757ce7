/-
# Marking.Text.Quoted -- texts between quotes

A text is written between single quotes, or between double quotes when it holds
a single quote and no double one.  The active quote and the backslash are
escaped, tab, line feed and carriage return have letters of their own, and every
other hidden character is written by its code point.
-/
import Marking.Text.Half
import Marking.Text.Printable

set_option autoImplicit false

namespace Marking.Text

def hexDigit (n : Nat) : Char :=
  if n < 10 then Char.ofNat (48 + n) else Char.ofNat (87 + n)

/-- The last `width` hexadecimal digits of `n`. -/
def hex : (width : Nat) → (n : Nat) → List Char
  | 0, _ => []
  | width + 1, n => hex width (n / 16) ++ [hexDigit (n % 16)]

/-- The quote that a text is written between. -/
def quoteFor (cs : List Char) : Char :=
  if cs.contains '\'' && !cs.contains '"' then '"' else '\''

def quoteChar (q c : Char) : List Char :=
  if c == q || c == '\\' then ['\\', c]
  else if c == '\t' then ['\\', 't']
  else if c == '\n' then ['\\', 'n']
  else if c == '\r' then ['\\', 'r']
  else if isPrintable c then [c]
  else
    let n := codeOf c
    if n < 0x100 then '\\' :: 'x' :: hex 2 n
    else if n < 0x10000 then '\\' :: 'u' :: hex 4 n
    else '\\' :: 'U' :: hex 8 n

/-- The text between its quotes. -/
def quoted (s : String) : String :=
  let cs := s.toList
  let q := quoteFor cs
  String.ofList (q :: cs.flatMap (quoteChar q) ++ [q])

example : quoted "it's" = "\"it's\"" := by decide +kernel
example : quoted "a\n\\" = "'a\\n\\\\'" := by decide +kernel

end Marking.Text
