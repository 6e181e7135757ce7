/-
# Marking.Value.Text -- values as expressions and as plain texts

`Value.expression` writes a value as the expression that would build it, the form
in which messages show a value.  `Value.text` is the plain form: a text is itself,
a key its name, and other values their expressions.

Not every value can be written.  A whole number has too many digits, parts lie too deep in one
another, a thing refuses to show itself: then the writing ends at the first such part, and a
message that was to show the value is never made.  `Fault.showing` is the fault of such a message.
-/
import Marking.Number.Integer
import Marking.Number.Shortest
import Marking.Value

set_option autoImplicit false

namespace Marking

def byteText (q : Char) (b : UInt8) : List Char :=
  let c := Char.ofNat b.toNat
  if b.toNat < 127 then
    if c == '\t' || c == '\n' || c == '\r' || 32 ≤ b.toNat then Text.quoteChar q c
    else '\\' :: 'x' :: Text.hex 2 b.toNat
  else '\\' :: 'x' :: Text.hex 2 b.toNat

def bytesText (bs : List UInt8) : String :=
  let q := Text.quoteFor (bs.map fun b => Char.ofNat b.toNat)
  String.ofList ('b' :: q :: bs.flatMap (byteText q) ++ [q])

namespace Moment

def padded (width n : Nat) : String :=
  let ds := Nat.toDigits 10 n
  String.ofList (List.replicate (width - ds.length) '0' ++ ds)

/-- The shift from universal time as signed hours and minutes. -/
def offsetText (minutes : Int) : String :=
  (if minutes < 0 then "-" else "+") ++ padded 2 (minutes.natAbs / 60) ++ ":" ++
    padded 2 (minutes.natAbs % 60)

/-- The moment with its parts from the largest to the smallest. -/
def text (m : Moment) : String :=
  let date := padded 4 m.year ++ "-" ++ padded 2 m.month ++ "-" ++ padded 2 m.day
  match m.time with
  | none => date
  | some (h, min, s, us) =>
    date ++ " " ++ padded 2 h ++ ":" ++ padded 2 min ++ ":" ++ padded 2 s ++
      (if us == 0 then "" else "." ++ padded 6 us) ++
      (match m.offset with | none => "" | some o => offsetText o)

/-- A span of minutes as an expression: whole days, and seconds that are not negative. -/
def spanExpression (minutes : Int) : String :=
  let days : Int := minutes.fdiv 1440
  let seconds := (minutes - days * 1440) * 60
  let parts := (if days == 0 then [] else ["days=" ++ toString days]) ++
    (if seconds == 0 then [] else ["seconds=" ++ toString seconds])
  "datetime.timedelta(" ++ ", ".intercalate parts ++ ")"

def offsetExpression (minutes : Int) : String :=
  if minutes == 0 then "datetime.timezone.utc"
  else "datetime.timezone(" ++ spanExpression minutes ++ ")"

def expression (m : Moment) : String :=
  let date := [m.year, m.month, m.day].map toString
  match m.time with
  | none => "datetime.date(" ++ ", ".intercalate date ++ ")"
  | some (h, min, s, us) =>
    let clock := if us == 0 then if s == 0 then [h, min] else [h, min, s] else [h, min, s, us]
    "datetime.datetime(" ++ ", ".intercalate (date ++ clock.map toString) ++
      (match m.offset with | none => "" | some o => ", tzinfo=" ++ offsetExpression o) ++ ")"

end Moment

/-- A class as an expression: its module and name, or the name alone for a class
that is always in scope. -/
def classExpression (module : Option String) (qualname : String) : String :=
  match module with
  | none => "<class '" ++ Text.lastComponent qualname ++ "'>"
  | some m =>
    if m == "builtins" then "<class '" ++ Text.lastComponent qualname ++ "'>"
    else "<class '" ++ m ++ "." ++ qualname ++ "'>"

def MarkerType.expression (t : MarkerType) : String := classExpression t.module t.name

def boolText (b : Bool) : String := if b then "True" else "False"

/-- How deep the parts of a value may lie in one another for the value to be written.  What is
under way when a value is written takes room of its own; this is what is left of a thousand calls
near the start of a program. -/
def Value.writingRoom : Nat := 980

/-- A whole number in digits, of which there must not be very many. -/
def Value.integerText (n : Int) : Except Fault String :=
  if n.natAbs < Nat.pow 10 Number.digitLimit then .ok (toString n) else .error .unwritableInteger

def Thing.expression (t : Thing) : Except Fault String :=
  match t.unshown with
  | none => .ok "<obj>"
  | some (error, text) => .error (.foreign error text)

def Value.bracketed (texts : List String) : String := "[" ++ ", ".intercalate texts ++ "]"

/-- Items in parentheses; a single one is followed by a comma. -/
def Value.parenthesized : List String → String
  | [one] => "(" ++ one ++ ",)"
  | texts => "(" ++ ", ".intercalate texts ++ ")"

/-- Items in braces, where no items are no entries. -/
def Value.braced : List String → String
  | [] => "set()"
  | texts => "\x7b" ++ ", ".intercalate texts ++ "\x7d"

mutual

/-- The value as an expression that builds it, when its parts may lie `room` deep.  The items of a
set are listed on their own, and a marker writes itself by three calls more. -/
def Value.expressionIn : (room : Nat) → Value → Except Fault String
  | 0, _ => .error .tooDeep
  | _ + 1, .null => .ok "None"
  | _ + 1, .bool b => .ok (boolText b)
  | _ + 1, .int n => Value.integerText n
  | _ + 1, .float x => .ok (Number.floatText x)
  | _ + 1, .str s => .ok (Text.quoted s)
  | _ + 1, .bytes bs => .ok (bytesText bs)
  | _ + 1, .moment m => .ok m.expression
  | room + 1, .list items => (Value.expressionsIn room items).map Value.bracketed
  | room + 1, .tuple items => (Value.expressionsIn room items).map Value.parenthesized
  | room + 1, .set items => (Value.expressionsIn (room - 1) items).map Value.braced
  | room + 1, .dict entries => (Value.entryExpressionsIn room entries).map fun texts =>
      "\x7b" ++ ", ".intercalate texts ++ "\x7d"
  | _ + 1, .key k => .ok k.expression
  | _ + 1, .kind k => .ok ("<ElementKind." ++ k.name ++ ": '" ++ k.word ++ "'>")
  | _ + 1, .policy p => .ok ("<MergePolicy." ++ p.name ++ ": '" ++ p.word ++ "'>")
  | _ + 1, .classRef module qualname _ => .ok (classExpression module qualname)
  | _ + 1, .function _ qualname => .ok ("<function " ++ qualname ++ ">")
  | _ + 1, .builtin b => .ok
      (if b.isClass then "<class '" ++ b.name ++ "'>" else "<built-in function " ++ b.name ++ ">")
  | _ + 1, .thing t => t.expression
  | _ + 1, .markerType t => .ok t.expression
  | room + 1, .marker m => Marker.expressionIn room m
  | _ + 1, .enclosing isDict => .ok (if isDict then "\x7b...\x7d" else "[...]")

/-- The expressions of several values, up to the first that cannot be written. -/
def Value.expressionsIn : (room : Nat) → List Value → Except Fault (List String)
  | _, [] => .ok []
  | room, v :: vs =>
    (v.expressionIn room).bind fun text => (Value.expressionsIn room vs).map (text :: ·)

def Value.entryExpressionsIn : (room : Nat) → List (Value × Value) → Except Fault (List String)
  | _, [] => .ok []
  | room, e :: es =>
    (Value.entryExpressionIn room e).bind fun text =>
      (Value.entryExpressionsIn room es).map (text :: ·)

def Value.entryExpressionIn : (room : Nat) → Value × Value → Except Fault String
  | room, (k, v) =>
    (k.expressionIn room).bind fun key => (v.expressionIn room).map (key ++ ": " ++ ·)

/-- The marker as it is written on a declaration. -/
def Marker.expressionIn : (room : Nat) → Marker → Except Fault String
  | room, .mk t attributes =>
    if room < 3 then .error .tooDeep
    else (Value.attributeTextsIn (room - 3) attributes).map fun texts =>
      "@" ++ t.name ++ "(" ++ ", ".intercalate texts ++ ")"

def Value.attributeTextsIn : (room : Nat) → List (String × Value) → Except Fault (List String)
  | _, [] => .ok []
  | room, a :: as =>
    (Value.attributeTextIn room a).bind fun text =>
      (Value.attributeTextsIn room as).map (text :: ·)

def Value.attributeTextIn : (room : Nat) → String × Value → Except Fault String
  | room, (name, v) => (v.expressionIn room).map (name ++ "=" ++ ·)

end

/-- The value as an expression that builds it. -/
def Value.expression (v : Value) : Except Fault String := v.expressionIn Value.writingRoom

def Marker.expression (m : Marker) : Except Fault String := (Value.marker m).expression

/-- The plain form of a value. -/
def Value.text : Value → Except Fault String
  | .str s => .ok s
  | .key k => .ok k.name
  | .moment m => .ok m.text
  | .kind k => .ok ("ElementKind." ++ k.name)
  | .policy p => .ok ("MergePolicy." ++ p.name)
  | v => v.expression

/-- The fault of a message that shows a text; without the text there is no such message, and the
fault is the one that the text met. -/
def Fault.showing (shown : Except Fault String) (cause : String → Fault) : Fault :=
  match shown with
  | .ok text => cause text
  | .error f => f

def Value.typeName : Value → String
  | .null => "NoneType"
  | .bool _ => "bool"
  | .int _ => "int"
  | .float _ => "float"
  | .str _ => "str"
  | .bytes _ => "bytes"
  | .moment m => if m.time.isSome then "datetime.datetime" else "datetime.date"
  | .list _ => "list"
  | .tuple _ => "tuple"
  | .set _ => "set"
  | .dict _ => "dict"
  | .key _ => "UnitKey"
  | .kind _ => "ElementKind"
  | .policy _ => "MergePolicy"
  | .classRef .. => "type"
  | .function .. => "function"
  | .builtin b => if b.isClass then "type" else "builtin_function_or_method"
  | .thing t => if t.callable then "CallObj" else "Obj"
  | .markerType _ => "type"
  | .marker m => m.type.name
  | .enclosing isDict => if isDict then "dict" else "list"

end Marking
