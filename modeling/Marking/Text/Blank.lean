/-
# Marking.Text.Blank -- blank characters and trimming

The blank characters are the white-space and separator characters of the
standard character database.  `strip` removes them from both ends of a text and
from nowhere else, and `words` are what stands between them.
-/

set_option autoImplicit false

namespace Marking.Text

/-- A white-space or separator character. -/
def isBlank (c : Char) : Bool :=
  let n := c.toNat
  (9 ≤ n && n ≤ 13) || (28 ≤ n && n ≤ 32) || n == 0x85 || n == 0xA0 || n == 0x1680 ||
    (0x2000 ≤ n && n ≤ 0x200A) || n == 0x2028 || n == 0x2029 || n == 0x202F ||
    n == 0x205F || n == 0x3000

def trim (cs : List Char) : List Char :=
  ((cs.dropWhile isBlank).reverse.dropWhile isBlank).reverse

def strip (s : String) : String :=
  String.ofList (trim s.toList)

/-- The words of a text: the runs of characters that are not blank. -/
def words (cs : List Char) : List String :=
  ((cs.splitBy fun a b => isBlank a == isBlank b).filter fun run =>
    !isBlank (run.headD ' ')).map String.ofList

def endsLine (c : Char) : Bool :=
  let n := c.toNat
  (10 ≤ n && n ≤ 13) || (0x1C ≤ n && n ≤ 0x1E) || n == 0x85 || n == 0x2028 || n == 0x2029

end Marking.Text
