/-
  VuserScript.Text.Style

  The names of styles of text. A name consists of words: attributes, a colour, a
  background behind `on`, and a link. Names of one style may differ in the order
  of the words and in short forms of attributes, but not in their normal form.
-/
import VuserScript.Text.Blank
import VuserScript.Text.LowerCase

namespace VuserScript.Text

/-- A style. -/
structure Style where
  /-- Attributes with whether they are wanted, the last one given first. -/
  attributes : List (String × Bool) := []
  color : Option (List Char) := none
  background : Option (List Char) := none
  link : Option (List Char) := none
  deriving DecidableEq, Repr

namespace Style

/-! ## Words -/

/-- The attributes in the order of normal forms, each with its short form if it has one. -/
def attributeNames : List (String × Option String) :=
  [("bold", some "b"), ("dim", some "d"), ("italic", some "i"), ("underline", some "u"),
    ("blink", none), ("blink2", none), ("reverse", some "r"), ("conceal", some "c"),
    ("strike", some "s"), ("underline2", some "uu"), ("frame", none), ("encircle", none),
    ("overline", some "o")]

/-- The attribute that a word names. -/
def attribute? (word : List Char) : Option String :=
  let word := String.ofList word
  (attributeNames.find? fun entry => entry.1 = word || entry.2 = some word).map (·.1)

/-- The names of colours. -/
def colorNames : List String :=
  ["default", "black", "red", "green", "yellow", "blue", "magenta", "cyan", "white",
    "bright_black", "bright_red", "bright_green", "bright_yellow", "bright_blue",
    "bright_magenta", "bright_cyan", "bright_white", "grey0", "gray0", "navy_blue", "dark_blue",
    "blue3", "blue1", "dark_green", "deep_sky_blue4", "dodger_blue3", "dodger_blue2", "green4",
    "spring_green4", "turquoise4", "deep_sky_blue3", "dodger_blue1", "green3", "spring_green3",
    "dark_cyan", "light_sea_green", "deep_sky_blue2", "deep_sky_blue1", "spring_green2", "cyan3",
    "dark_turquoise", "turquoise2", "green1", "spring_green1", "medium_spring_green", "cyan2",
    "cyan1", "dark_red", "deep_pink4", "purple4", "purple3", "blue_violet", "orange4", "grey37",
    "gray37", "medium_purple4", "slate_blue3", "royal_blue1", "chartreuse4", "dark_sea_green4",
    "pale_turquoise4", "steel_blue", "steel_blue3", "cornflower_blue", "chartreuse3",
    "cadet_blue", "sky_blue3", "steel_blue1", "pale_green3", "sea_green3", "aquamarine3",
    "medium_turquoise", "chartreuse2", "sea_green2", "sea_green1", "aquamarine1",
    "dark_slate_gray2", "dark_magenta", "dark_violet", "purple", "light_pink4", "plum4",
    "medium_purple3", "slate_blue1", "yellow4", "wheat4", "grey53", "gray53", "light_slate_grey",
    "light_slate_gray", "medium_purple", "light_slate_blue", "dark_olive_green3",
    "dark_sea_green", "light_sky_blue3", "sky_blue2", "dark_sea_green3", "dark_slate_gray3",
    "sky_blue1", "chartreuse1", "light_green", "pale_green1", "dark_slate_gray1", "red3",
    "medium_violet_red", "magenta3", "dark_orange3", "indian_red", "hot_pink3", "medium_orchid3",
    "medium_orchid", "medium_purple2", "dark_goldenrod", "light_salmon3", "rosy_brown", "grey63",
    "gray63", "medium_purple1", "gold3", "dark_khaki", "navajo_white3", "grey69", "gray69",
    "light_steel_blue3", "light_steel_blue", "yellow3", "dark_sea_green2", "light_cyan3",
    "light_sky_blue1", "green_yellow", "dark_olive_green2", "dark_sea_green1", "pale_turquoise1",
    "deep_pink3", "magenta2", "hot_pink2", "orchid", "medium_orchid1", "orange3", "light_pink3",
    "pink3", "plum3", "violet", "light_goldenrod3", "tan", "misty_rose3", "thistle3", "plum2",
    "khaki3", "light_goldenrod2", "light_yellow3", "grey84", "gray84", "light_steel_blue1",
    "yellow2", "dark_olive_green1", "honeydew2", "light_cyan1", "red1", "deep_pink2",
    "deep_pink1", "magenta1", "orange_red1", "indian_red1", "hot_pink", "dark_orange", "salmon1",
    "light_coral", "pale_violet_red1", "orchid2", "orchid1", "orange1", "sandy_brown",
    "light_salmon1", "light_pink1", "pink1", "plum1", "gold1", "navajo_white1", "misty_rose1",
    "thistle1", "yellow1", "light_goldenrod1", "khaki1", "wheat1", "cornsilk1", "grey100",
    "gray100", "grey3", "gray3", "grey7", "gray7", "grey11", "gray11", "grey15", "gray15",
    "grey19", "gray19", "grey23", "gray23", "grey27", "gray27", "grey30", "gray30", "grey35",
    "gray35", "grey39", "gray39", "grey42", "gray42", "grey46", "gray46", "grey50", "gray50",
    "grey54", "gray54", "grey58", "gray58", "grey62", "gray62", "grey66", "gray66", "grey70",
    "gray70", "grey74", "gray74", "grey78", "gray78", "grey82", "gray82", "grey85", "gray85",
    "grey89", "gray89", "grey93", "gray93"]

/-- What stands in parentheses behind a word. -/
def argument? (word : String) (cs : List Char) : Option (List Char) :=
  let opening := word.toList ++ ['(']
  if opening.isPrefixOf cs && cs.getLast? = some ')' then some (cs.drop opening.length).dropLast
  else none

/-- Whether digits write a number that fits a byte. -/
def isByte (digits : List Char) : Bool :=
  !digits.isEmpty && digits.all Char.isDigit
    && digits.foldl (fun n c => n * 10 + (c.toNat - '0'.toNat)) 0 ≤ 255

/-- Whether three numbers with commas between them mix a colour. -/
def isMixture (cs : List Char) : Bool :=
  let (red, rest) := cs.span (· ≠ ',')
  let (green, rest) := rest.tail.span (· ≠ ',')
  isByte red && isByte green && isByte rest.tail

/-- Whether a word in lower case is a colour: a name, six digits in base sixteen, a number or a
mixture. -/
def isColor (word : List Char) : Bool :=
  let isHexDigit := fun c : Char => c.isDigit || ('a' ≤ c && c ≤ 'f')
  colorNames.contains (String.ofList word)
    || (word.head? = some '#' && word.tail.length = 6 && word.tail.all isHexDigit)
    || (argument? "color" word).any (fun digits => isByte digits && digits.length ≤ 3)
    || (argument? "rgb" word).any isMixture

/-! ## Names -/

/-- Adds words to a style, unless one of them does not belong to it. -/
def addWords (s : Style) : List (List Char) → Option Style
  | [] => some s
  | [word] => addWord s (lowerList word)
  | word :: next :: rest =>
    let word := lowerList word
    if word = "on".toList then
      let color := lowerList next
      if isColor color then addWords { s with background := some color } rest else none
    else if word = "not".toList then
      match attribute? next with
      | some name => addWords { s with attributes := (name, false) :: s.attributes } rest
      | none => none
    else if word = "link".toList then addWords { s with link := some next } rest
    else
      match addWord s word with
      | some s => addWords s (next :: rest)
      | none => none
where
  /-- Adds an attribute or a colour. -/
  addWord (s : Style) (word : List Char) : Option Style :=
    match attribute? word with
    | some name => some { s with attributes := (name, true) :: s.attributes }
    | none => if isColor word then some { s with color := some word } else none

/-- The words of the normal form of a style. -/
def normalWords (s : Style) : List (List Char) :=
  (attributeNames.flatMap fun (name, _) =>
    match s.attributes.lookup name with
    | some true => [name.toList]
    | some false => ["not".toList, name.toList]
    | none => [])
  ++ s.color.toList
  ++ (s.background.toList.flatMap fun color => ["on".toList, color])
  ++ (s.link.toList.flatMap fun link => ["link".toList, link])

/-- The normal form of a name. What names no style is put in lower case. -/
def normalName (cs : List Char) : List Char :=
  match addWords {} (words cs) with
  | some s => " ".toList.intercalate s.normalWords
  | none => lowerList (trimList cs)

end Style

end VuserScript.Text
