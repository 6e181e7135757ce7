/-
# Marking.Key -- element kinds and unit keys

An element kind says at which granularity a marker stands: on a type, a
constructor, a field or a method.  A unit key names a node of the dependency
graph: a dotted name together with a kind.  Keys are compared as values, so that
work found in several places under one key falls together.
-/
import Marking.Text.Blank
import Marking.Text.Lower
import Marking.Text.Dotted
import Marking.Text.Quoted

set_option autoImplicit false

namespace Marking

/-- The granularity at which a marker may stand. -/
inductive ElementKind where
  | type
  | constructor
  | field
  | method
  deriving DecidableEq, Repr, Inhabited

namespace ElementKind

/-- Every kind, in the order in which an unrestricted marker is looked up. -/
def all : List ElementKind := [type, constructor, field, method]

def word : ElementKind → String
  | type => "type"
  | constructor => "constructor"
  | field => "field"
  | method => "method"

def name : ElementKind → String
  | type => "TYPE"
  | constructor => "CONSTRUCTOR"
  | field => "FIELD"
  | method => "METHOD"

/-- The place of the word among the four words. -/
def rank : ElementKind → Nat
  | constructor => 0
  | field => 1
  | method => 2
  | type => 3

/-- Reads a kind from its word in any case, with blanks around it. -/
def ofText? (s : String) : Option ElementKind :=
  let text := Text.lower (Text.strip s)
  all.find? (fun k => k.word == text)

def ofName? (s : String) : Option ElementKind :=
  all.find? (fun k => k.name == s)

theorem all_nodup : all.Nodup := by decide

example : ∀ a ∈ all, ∀ b ∈ all, decide (a.rank < b.rank) = Text.textLt a.word b.word := by
  decide +kernel

end ElementKind

/-- The identity of a unit: a qualified name and the kind it was declared at. -/
structure UnitKey where
  name : String
  kind : ElementKind := .type
  deriving DecidableEq, Repr, Inhabited

namespace UnitKey

instance : ToString UnitKey := ⟨UnitKey.name⟩

def expression (k : UnitKey) : String :=
  if k.kind = .type then "UnitKey(" ++ Text.quoted k.name ++ ")"
  else "UnitKey(" ++ Text.quoted k.name ++ ", " ++ k.kind.name ++ ")"

/-- Keys are ordered by name, and by the word of their kind under one name. -/
def lt (a b : UnitKey) : Bool :=
  Text.textLt a.name b.name || (a.name == b.name && a.kind.rank < b.kind.rank)

/-- Order that also holds between equal keys. -/
def le (a b : UnitKey) : Bool := !lt b a

/-- The last dotted component of the name. -/
def simpleName (k : UnitKey) : String := Text.lastComponent k.name

def sorted (ks : List UnitKey) : List UnitKey := ks.mergeSort le

/-- The names of the keys in rising order of the keys, with commas between. -/
def listing (ks : List UnitKey) : String :=
  ", ".intercalate ((sorted ks).map name)

/-- The keys without repetitions, at their first places. -/
def distinct (ks : List UnitKey) : List UnitKey :=
  ks.foldl (fun seen k => if k ∈ seen then seen else seen ++ [k]) []

end UnitKey

end Marking
