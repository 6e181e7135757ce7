/-
# Marking.Text.Emoji -- pictures by name

A name between colons stands for a picture.  The name holds no blanks, and its case does
not matter; behind it a hyphen and a word may say whether the picture is to be drawn or to
be written.  A name of no picture stays as it is, with both its colons.
-/
import Marking.Text.Emoji.Table
import Marking.Text.Lower
import Marking.Text.Blank

set_option autoImplicit false

namespace Marking.Text.Emoji

def words : (held : List Char) → List Char → List String
  | held, [] => if held.isEmpty then [] else [String.ofList held.reverse]
  | held, c :: cs =>
    if c == ' ' || c == '\n' then
      if held.isEmpty then words [] cs else String.ofList held.reverse :: words [] cs
    else words (c :: held) cs

/-- The word behind a name, among names and pictures in turn. -/
def behind? (name : String) : List String → Option String
  | n :: picture :: rest => if n == name then some picture else behind? name rest
  | _ => none

def picture? (name : String) : Option String := behind? name (words [] table.toList)

/-- The words for the ways to show a picture, and the signs for them. -/
def variants : List (String × Char) :=
  [("-emoji", Char.ofNat 0xFE0F), ("-text", Char.ofNat 0xFE0E)]

/-- A name without the word for the way to show its picture, and the sign for that. -/
def splitVariant (name : List Char) : List Char × List Char :=
  match variants.find? fun v => v.1.toList.isSuffixOf name with
  | some v => (name.take (name.length - v.1.length), [v.2])
  | none => (name, [])

def shown (name : List Char) : List Char :=
  let (bare, sign) := splitVariant name
  match picture? (lower (String.ofList bare)) with
  | some picture => picture.toList ++ sign
  | none => ':' :: name ++ [':']

/-- The characters with pictures in the place of their names. -/
def replaceFrom : (fuel : Nat) → List Char → List Char
  | 0, cs => cs
  | _ + 1, [] => []
  | fuel + 1, c :: cs =>
    if c == ':' then
      let name := cs.takeWhile fun c => c != ':' && !isBlank c
      match cs.drop name.length with
      | ':' :: rest => shown name ++ replaceFrom fuel rest
      | _ => c :: replaceFrom fuel cs
    else c :: replaceFrom fuel cs

/-- The characters with pictures in the place of their names. -/
def replace (cs : List Char) : List Char :=
  if cs.contains ':' then replaceFrom cs.length cs else cs

end Marking.Text.Emoji
