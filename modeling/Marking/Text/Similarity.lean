/-
# Marking.Text.Similarity -- words that resemble each other

Two texts share the characters of the longest run that stands in both, and what the
texts share before and behind that run.  They are close when twice the shared
characters are at least six tenths of all their characters.
-/
import Marking.Text.Dotted

set_option autoImplicit false

namespace Marking.Text

/-- How many characters two texts have in common from the beginning. -/
def commonStart : List Char → List Char → Nat
  | a :: as, b :: bs => if a == b then commonStart as bs + 1 else 0
  | _, _ => 0

/-- A run of characters that stands in two texts. -/
structure SharedRun where
  first : Nat := 0
  second : Nat := 0
  length : Nat := 0
  deriving DecidableEq, Repr

/-- The longer run; of two equal ones the first. -/
def SharedRun.longer (r s : SharedRun) : SharedRun := if r.length < s.length then s else r

/-- The longest run at a place of the first text, from a place of the second on. -/
def longestAt (as : List Char) (i : Nat) : (j : Nat) → List Char → SharedRun
  | j, [] => ⟨i, j, 0⟩
  | j, b :: bs => SharedRun.longer ⟨i, j, commonStart as (b :: bs)⟩ (longestAt as i (j + 1) bs)

/-- The longest run that stands in both texts, the first of several. -/
def longestRun (bs : List Char) : (i : Nat) → List Char → SharedRun
  | i, [] => ⟨i, 0, 0⟩
  | i, a :: as => SharedRun.longer (longestAt (a :: as) i 0 bs) (longestRun bs (i + 1) as)

/-- How many characters two texts share.  Every step takes a run out of the first text,
so its length bounds the steps. -/
def sharedCount : (fuel : Nat) → List Char → List Char → Nat
  | 0, _, _ => 0
  | fuel + 1, as, bs =>
    let r := longestRun bs 0 as
    if r.length == 0 then 0
    else
      r.length + sharedCount fuel (as.take r.first) (bs.take r.second) +
        sharedCount fuel (as.drop (r.first + r.length)) (bs.drop (r.second + r.length))

/-- How much a text resembles a word: the shared characters and all characters. -/
structure Resemblance where
  word : String
  shared : Nat
  total : Nat
  deriving DecidableEq, Repr

namespace Resemblance

def of (text word : String) : Resemblance :=
  let as := word.toList
  let bs := text.toList
  ⟨word, sharedCount (as.length + 1) as bs, as.length + bs.length⟩

def isClose (r : Resemblance) : Bool := 3 * r.total ≤ 10 * r.shared

/-- Closer words come first; of two that are equally close the later one. -/
def before (r s : Resemblance) : Bool :=
  let a := r.shared * s.total
  let b := s.shared * r.total
  b < a || (a == b && !textLt r.word s.word)

end Resemblance

/-- The words that a text resembles, three at most, in their order as texts. -/
def closeTo (words : List String) (text : String) : List String :=
  let close := (words.map (Resemblance.of text)).filter Resemblance.isClose
  (((close.mergeSort Resemblance.before).take 3).map Resemblance.word).mergeSort
    fun a b => !textLt b a

example : closeTo ["--config", "--strict", "--help"] "--confg" = ["--config"] := by
  decide +kernel

example : closeTo ["--config", "--test-mode", "--no-test-mode"] "--format" = [] := by
  decide +kernel

end Marking.Text
