/-
# Marking.Text.Markup -- texts with styles between brackets

A tag between brackets begins a style, one with a slash ends it, and `[/]` ends the
latest.  A tag begins with a small letter, a number sign, a slash or an at sign and
holds no further opening bracket; a backslash before a bracket takes its meaning away.
A style may be ended under another name than it was begun under.  Names between colons
stand for pictures.  `Markup.plain` is the text without its tags.  A tag that ends nothing
is a fault.
-/
import Marking.Text.Emoji
import Marking.Text.Style

set_option autoImplicit false

namespace Marking.Text.Markup

inductive Piece where
  | plain (cs : List Char)
  /-- A tag and the place where it begins. -/
  | tag (body : List Char) (position : Nat)
  deriving DecidableEq, Repr

/-- A tag may begin with this character. -/
def opensTag (c : Char) : Bool := c.isLower || c == '#' || c == '/' || c == '@'

/-- The body of a tag behind its opening bracket. -/
def tagBody? (cs : List Char) : Option (List Char) :=
  let body := cs.takeWhile fun c => c != '[' && c != ']'
  match body with
  | [] => none
  | c :: _ => if opensTag c && (cs.drop body.length).head? == some ']' then some body else none

/-- The pieces of a text.  `held` are plain characters in reverse. -/
def pieces : (fuel : Nat) → (position : Nat) → (held : List Char) → List Char → List Piece
  | 0, _, held, cs => [.plain (held.reverse ++ cs)]
  | _ + 1, _, held, [] => [.plain held.reverse]
  | fuel + 1, position, held, cs =>
    let slashes := (cs.takeWhile (· == '\\')).length
    match cs.drop slashes with
    | '[' :: rest =>
      match tagBody? rest with
      | none =>
        pieces fuel (position + slashes + 1) ('[' :: List.replicate slashes '\\' ++ held) rest
      | some body =>
        let after := rest.drop (body.length + 1)
        let next := position + slashes + body.length + 2
        let kept := List.replicate (slashes / 2) '\\'
        if slashes % 2 == 1 then
          .plain held.reverse :: .plain kept :: .plain ('[' :: body ++ [']']) ::
            pieces fuel next [] after
        else
          .plain held.reverse :: .plain kept :: .tag body (position + slashes) ::
            pieces fuel next [] after
    | c :: rest =>
      pieces fuel (position + slashes + 1) (c :: List.replicate slashes '\\' ++ held) rest
    | [] => [.plain (held.reverse ++ cs)]

/-- A backslash before an opening bracket is not shown. -/
def unescape : List Char → List Char
  | '\\' :: '[' :: cs => '[' :: unescape cs
  | c :: cs => c :: unescape cs
  | [] => []

/-- A character that moves the pen and is not shown. -/
def isHidden (c : Char) : Bool := [7, 8, 11, 12, 13].contains c.toNat

/-- The name of a style in the body of a tag: what stands before the sign of equality. -/
def nameOf (body : List Char) : List Char := body.takeWhile (· != '=')

/-- The stack of styles without the latest of a name. -/
def close? (name : String) : List String → Option (List String)
  | [] => none
  | s :: ss => if s == name then some ss else (close? name ss).map (s :: ·)

/-- Plain characters as they are shown. -/
def shown (cs : List Char) : List Char :=
  (Emoji.replace (unescape cs)).filter fun c => !isHidden c

/-- The stack behind a tag that ends a style; `body` stands behind its slash. -/
def closing (stack : List String) (body : List Char) (position : Nat) :
    Except Fault (List String) := do
  let name := trim (nameOf body)
  if name.isEmpty then
    match stack with
    | [] => throw (.strayTag "/" position)
    | _ :: stack => return stack
  else
    match close? (← Style.normal name) stack with
    | none => throw (.strayTag (String.ofList ('/' :: body)) position)
    | some stack => return stack

/-- The characters of the pieces, with the open styles on a stack. -/
def join : (stack : List String) → List Piece → Except Fault (List Char)
  | _, [] => .ok []
  | stack, .plain cs :: ps => (join stack ps).map (shown cs ++ ·)
  | stack, .tag body position :: ps => do
    match body with
    | '/' :: body => join (← closing stack body position) ps
    | body => join ((← Style.normal (nameOf body)) :: stack) ps

def plain (s : String) : Except Fault String :=
  let cs := s.toList
  if cs.contains '[' then (join [] (pieces (cs.length + 1) 0 [] cs)).map String.ofList
  else .ok (String.ofList ((Emoji.replace cs).filter fun c => !isHidden c))

example : (plain "[red]Error:[/red] a [1] \\[b]").toOption = some "Error: a [1] [b]" := by
  decide +kernel

end Marking.Text.Markup
