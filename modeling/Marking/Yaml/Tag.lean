/-
# Marking.Yaml.Tag -- the kinds of nodes

Every node of a document has a kind.  Where none is written, a plain scalar has the
first kind whose form it has, and any other scalar is a text.  A line may end behind
every form but that of nothing.
-/
import Marking.Json.Reader
import Marking.Yaml.Stamp

set_option autoImplicit false

namespace Marking.Yaml

inductive Tag where
  | null
  | truth
  | integer
  | float
  | text
  | bytes
  | moment
  /-- The key whose values are merged into the mapping. -/
  | merge
  /-- The key that stands for the plain value of a mapping. -/
  | default
  | sequence
  | mapping
  | set
  | orderedMapping
  | pairs
  | other
  deriving DecidableEq, Repr

namespace Tag

/-- The address below which the known kinds are. -/
def home : String := "tag:yaml.org,2002:"

/-- The known kinds by the names below their address. -/
def names : List (String × Tag) :=
  [("null", null), ("bool", truth), ("int", integer), ("float", float), ("str", text),
   ("binary", bytes), ("timestamp", moment), ("merge", merge), ("value", default),
   ("seq", sequence), ("map", mapping), ("set", set), ("omap", orderedMapping),
   ("pairs", pairs)]

def ofAddress (address : String) : Tag :=
  ((names.find? fun e => home ++ e.1 == address).map Prod.snd).getD other

/-- Nodes of the kind have a value that a text writes. -/
def isWritten (t : Tag) : Bool :=
  [null, truth, integer, float, text, bytes, moment].contains t

/-! ## Forms of plain scalars -/

def truthWords : List (String × Bool) :=
  [("yes", true), ("no", false), ("true", true), ("false", false), ("on", true), ("off", false)]

/-- The word, the word with a capital, and the word in capitals. -/
def spellings (word : String) : List String := [word, word.capitalize, word.toUpper]

def isTruth (cs : List Char) : Bool :=
  truthWords.any fun w => (spellings w.1).contains (String.ofList cs)

/-- Nothing, or a sign or word for it. -/
def isNull (cs : List Char) : Bool :=
  cs.isEmpty || cs == ['~'] || (spellings "null").contains (String.ofList cs)

def unsigned : List Char → List Char
  | '+' :: cs => cs
  | '-' :: cs => cs
  | cs => cs

/-- One digit at least, all of them with the test or underscores. -/
def areDigits (test : Char → Bool) (cs : List Char) : Bool :=
  !cs.isEmpty && cs.all fun c => test c || c == '_'

def isHex (c : Char) : Bool := (Json.hexValue? c).isSome

/-- A digit and further ones with underscores. -/
def isNumeral : List Char → Bool
  | [] => false
  | c :: cs => c.isDigit && cs.all fun c => c.isDigit || c == '_'

def byColon (cs : List Char) : List (List Char) := Text.splitAt ':' cs

def isSixtieth : List Char → Bool
  | [a] => a.isDigit
  | [a, b] => '0' ≤ a && a ≤ '5' && b.isDigit
  | _ => false

/-- A numeral and one sixtieth at least behind it. -/
def isSexagesimal (cs : List Char) : Bool :=
  match byColon cs with
  | whole :: part :: parts => isNumeral whole && (part :: parts).all isSixtieth
  | _ => false

def isInteger (cs : List Char) : Bool :=
  match unsigned cs with
  | '0' :: 'b' :: ds => areDigits (fun c => c == '0' || c == '1') ds
  | '0' :: 'x' :: ds => areDigits isHex ds
  | '0' :: ds => ds.isEmpty || areDigits (fun c => '0' ≤ c && c ≤ '7') ds
  | ds => isNumeral ds || isSexagesimal ds

def isExponent : List Char → Bool
  | [] => true
  | e :: s :: ds =>
    (e == 'e' || e == 'E') && (s == '+' || s == '-') && !ds.isEmpty && ds.all Char.isDigit
  | _ => false

def isFraction (cs : List Char) : Bool :=
  isExponent (cs.dropWhile fun c => c.isDigit || c == '_')

/-- A number with a point, or a word for one that is not finite. -/
def isFloat (cs : List Char) : Bool :=
  let whole := (unsigned cs).takeWhile (· != '.')
  match (unsigned cs).dropWhile (· != '.') with
  | [] => false
  | _ :: rest =>
    if whole.isEmpty then
      (["inf", "Inf", "INF"]).contains (String.ofList rest) ||
        (unsigned cs == cs &&
          ((["nan", "NaN", "NAN"]).contains (String.ofList rest) ||
            ((rest.headD ' ').isDigit && isFraction rest)))
    else
      (isNumeral whole && isFraction rest) ||
        (isSexagesimal whole && rest.all fun c => c.isDigit || c == '_')

/-- A date of ten characters, or a date with a time of day. -/
def isMoment (cs : List Char) : Bool :=
  match Stamp.parts? cs with
  | some s => s.clock.isSome || cs.length == 10
  | none => false

def ofPlain (s : String) : Tag :=
  let cs := Stamp.withoutLastBreak s.toList
  if s == "\n" then text
  else if isTruth cs then truth
  else if isFloat cs then float
  else if isInteger cs then integer
  else if cs == ['<', '<'] then merge
  else if isNull cs then null
  else if isMoment cs then moment
  else if cs == ['='] then default
  else if cs == ['!'] || cs == ['&'] || cs == ['*'] then other
  else text

example : ofPlain "On" = truth ∧ ofPlain "y" = text ∧ ofPlain "0o7" = text ∧
    ofPlain "-0x1F" = integer ∧ ofPlain "1:30" = integer ∧ ofPlain "1e5" = text ∧
    ofPlain "1.e+5" = float ∧ ofPlain "-.5" = text ∧ ofPlain "2024-1-1" = text := by
  decide +kernel

end Tag

end Marking.Yaml
