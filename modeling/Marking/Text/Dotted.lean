/-
# Marking.Text.Dotted -- dotted names

A dotted name is a list of components between dots.  `components` never returns
the empty list: the empty name has one empty component.
-/

set_option autoImplicit false

namespace Marking.Text

/-- The parts of a character list between the occurrences of `sep`. -/
def splitAt (sep : Char) : List Char → List (List Char)
  | [] => [[]]
  | c :: cs =>
    if c = sep then [] :: splitAt sep cs
    else
      match splitAt sep cs with
      | [] => [[c]]
      | part :: parts => (c :: part) :: parts

def components (name : String) : List String :=
  (splitAt '.' name.toList).map String.ofList

def lastComponent (name : String) : String :=
  (components name).getLastD ""

/-- The name without its last component; empty for a name without a dot. -/
def parentName (name : String) : String :=
  ".".intercalate (components name).dropLast

/-- `whole` starts with `part`. -/
def startsWith (part whole : String) : Bool :=
  part.toList.isPrefixOf whole.toList

def textLt (a b : String) : Bool :=
  go a.toList b.toList
where
  go : List Char → List Char → Bool
    | [], [] => false
    | [], _ :: _ => true
    | _ :: _, [] => false
    | a :: as, b :: bs => a.toNat < b.toNat || (a == b && go as bs)

theorem splitAt_ne_nil (sep : Char) (cs : List Char) : splitAt sep cs ≠ [] := by
  cases cs with
  | nil => simp [splitAt]
  | cons c cs =>
    simp only [splitAt]
    split
    · simp
    · split <;> simp

example : components "a..b" = ["a", "", "b"] := by decide +kernel
example : components "" = [""] := by decide +kernel

end Marking.Text
