/-
# Marking.Text.Style -- styles by name

A style is written as words: attributes such as `bold`, which `not` in front takes back, a
color, `on` and a color for the ground, and `link` and an address.  Attributes and colors
have several names.  `Style.normal` is the one form that all ways of writing a style share:
the attributes in a fixed order, the color, the ground and the address.  A text that is no
style is its own form, in small letters and without blanks at its ends.
-/
import Marking.Value.Integer

set_option autoImplicit false

namespace Marking.Text

def attributeNames : List (String × String) :=
  [("dim", "dim"), ("d", "dim"), ("bold", "bold"), ("b", "bold"), ("italic", "italic"),
   ("i", "italic"), ("underline", "underline"), ("u", "underline"), ("blink", "blink"),
   ("blink2", "blink2"), ("reverse", "reverse"), ("r", "reverse"), ("conceal", "conceal"),
   ("c", "conceal"), ("strike", "strike"), ("s", "strike"), ("underline2", "underline2"),
   ("uu", "underline2"), ("frame", "frame"), ("encircle", "encircle"),
   ("overline", "overline"), ("o", "overline")]

/-- The attributes in the order in which they are written. -/
def attributeOrder : List String :=
  ["bold", "dim", "italic", "underline", "blink", "blink2", "reverse", "conceal", "strike",
   "underline2", "frame", "encircle", "overline"]

def colorNames : List String :=
  ["black", "red", "green", "yellow", "blue", "magenta", "cyan", "white", "bright_black",
   "bright_red", "bright_green", "bright_yellow", "bright_blue", "bright_magenta", "bright_cyan",
   "bright_white", "grey0", "gray0", "navy_blue", "dark_blue", "blue3", "blue1", "dark_green",
   "deep_sky_blue4", "dodger_blue3", "dodger_blue2", "green4", "spring_green4", "turquoise4",
   "deep_sky_blue3", "dodger_blue1", "green3", "spring_green3", "dark_cyan", "light_sea_green",
   "deep_sky_blue2", "deep_sky_blue1", "spring_green2", "cyan3", "dark_turquoise", "turquoise2",
   "green1", "spring_green1", "medium_spring_green", "cyan2", "cyan1", "dark_red", "deep_pink4",
   "purple4", "purple3", "blue_violet", "orange4", "grey37", "gray37", "medium_purple4",
   "slate_blue3", "royal_blue1", "chartreuse4", "dark_sea_green4", "pale_turquoise4",
   "steel_blue", "steel_blue3", "cornflower_blue", "chartreuse3", "cadet_blue", "sky_blue3",
   "steel_blue1", "pale_green3", "sea_green3", "aquamarine3", "medium_turquoise", "chartreuse2",
   "sea_green2", "sea_green1", "aquamarine1", "dark_slate_gray2", "dark_magenta", "dark_violet",
   "purple", "light_pink4", "plum4", "medium_purple3", "slate_blue1", "yellow4", "wheat4",
   "grey53", "gray53", "light_slate_grey", "light_slate_gray", "medium_purple",
   "light_slate_blue", "dark_olive_green3", "dark_sea_green", "light_sky_blue3", "sky_blue2",
   "dark_sea_green3", "dark_slate_gray3", "sky_blue1", "chartreuse1", "light_green",
   "pale_green1", "dark_slate_gray1", "red3", "medium_violet_red", "magenta3", "dark_orange3",
   "indian_red", "hot_pink3", "medium_orchid3", "medium_orchid", "medium_purple2",
   "dark_goldenrod", "light_salmon3", "rosy_brown", "grey63", "gray63", "medium_purple1", "gold3",
   "dark_khaki", "navajo_white3", "grey69", "gray69", "light_steel_blue3", "light_steel_blue",
   "yellow3", "dark_sea_green2", "light_cyan3", "light_sky_blue1", "green_yellow",
   "dark_olive_green2", "dark_sea_green1", "pale_turquoise1", "deep_pink3", "magenta2",
   "hot_pink2", "orchid", "medium_orchid1", "orange3", "light_pink3", "pink3", "plum3", "violet",
   "light_goldenrod3", "tan", "misty_rose3", "thistle3", "plum2", "khaki3", "light_goldenrod2",
   "light_yellow3", "grey84", "gray84", "light_steel_blue1", "yellow2", "dark_olive_green1",
   "honeydew2", "light_cyan1", "red1", "deep_pink2", "deep_pink1", "magenta1", "orange_red1",
   "indian_red1", "hot_pink", "dark_orange", "salmon1", "light_coral", "pale_violet_red1",
   "orchid2", "orchid1", "orange1", "sandy_brown", "light_salmon1", "light_pink1", "pink1",
   "plum1", "gold1", "navajo_white1", "misty_rose1", "thistle1", "yellow1", "light_goldenrod1",
   "khaki1", "wheat1", "cornsilk1", "grey100", "gray100", "grey3", "gray3", "grey7", "gray7",
   "grey11", "gray11", "grey15", "gray15", "grey19", "gray19", "grey23", "gray23", "grey27",
   "gray27", "grey30", "gray30", "grey35", "gray35", "grey39", "gray39", "grey42", "gray42",
   "grey46", "gray46", "grey50", "gray50", "grey54", "gray54", "grey58", "gray58", "grey62",
   "gray62", "grey66", "gray66", "grey70", "gray70", "grey74", "gray74", "grey78", "gray78",
   "grey82", "gray82", "grey85", "gray85", "grey89", "gray89", "grey93", "gray93"]

/-- A style: which attributes it sets or takes back, its colors and its address. -/
structure Style where
  attributes : List (String × Bool) := []
  color : Option String := none
  ground : Option String := none
  link : Option String := none

namespace Style

/-- The characters between a beginning and a closing bracket at the end. -/
def inside? (opening : String) (cs : List Char) : Option (List Char) :=
  if opening.toList.isPrefixOf cs && cs.getLast? == some ')' then
    some ((cs.drop opening.length).dropLast)
  else none

def isNumbered (cs : List Char) : Bool :=
  match inside? "color(" cs with
  | none => false
  | some ds =>
    !ds.isEmpty && ds.length ≤ 3 && ds.all Char.isDigit &&
      Number.ofDigits (ds.map fun d => d.toNat - 48) ≤ 255

def isHexColor (cs : List Char) : Bool :=
  match cs with
  | '#' :: ds => ds.length == 6 && ds.all fun c => c.isDigit || ('a' ≤ c && c ≤ 'f')
  | _ => false

/-- A color by three numbers up to 255; a part that is no number is a fault. -/
def isMixed (cs : List Char) : Except Fault Bool :=
  match inside? "rgb(" cs with
  | none => .ok false
  | some inner =>
    if inner.isEmpty || !inner.all (fun c => c == ',' || (digit? c).isSome) then .ok false
    else
      match splitAt ',' inner with
      | [a, b, c] => do
        let parts ← [a, b, c].mapM (Value.integerIn 10)
        .ok (parts.all (· ≤ 255))
      | _ => .ok false

/-- The name of a color, in small letters; nothing if it is none. -/
def color? (word : String) : Except Fault (Option String) :=
  let small := lower word
  let cs := small.toList
  if small == "default" || colorNames.contains small || isHexColor cs || isNumbered cs then
    .ok (some small)
  else (isMixed cs).map fun mixed => if mixed then some small else none

/-- Sets an attribute, or takes it back. -/
def withAttribute (s : Style) (name : String) (on : Bool) : Style :=
  { s with attributes := (name, on) :: s.attributes }

/-- The style that words add to a style; nothing if they write none. -/
def ofWords? (s : Style) : List String → Except Fault (Option Style)
  | [] => .ok (some s)
  | word :: rest =>
    match lower word, rest with
    | "on", [] | "link", [] => .ok none
    | "on", c :: rest => do
      match ← color? c with
      | some c => ofWords? { s with ground := some c } rest
      | none => .ok none
    | "not", [] => .ok none
    | "not", a :: rest =>
      match attributeNames.lookup a with
      | some a => ofWords? (s.withAttribute a false) rest
      | none => .ok none
    | "link", address :: rest => ofWords? { s with link := some address } rest
    | small, rest =>
      match attributeNames.lookup small with
      | some a => ofWords? (s.withAttribute a true) rest
      | none => do
        match ← color? small with
        | some c => ofWords? { s with color := some c } rest
        | none => .ok none

def text (s : Style) : String :=
  let attributes := attributeOrder.filterMap fun name =>
    (s.attributes.lookup name).map fun on => if on then name else "not " ++ name
  let parts := attributes ++ s.color.toList ++ (s.ground.map ("on " ++ ·)).toList ++
    (s.link.map ("link " ++ ·)).toList
  if parts.isEmpty then "none" else " ".intercalate parts

/-- The one form of what is written. -/
def normal (cs : List Char) : Except Fault String := do
  if String.ofList (trim cs) == "none" || cs.isEmpty then return "none"
  match ← ofWords? {} (words cs) with
  | some s => return s.text
  | none => return lower (strip (String.ofList cs))

example : (normal "red B not i".toList).toOption = some "bold not italic red" := by
  decide +kernel

end Style

end Marking.Text
