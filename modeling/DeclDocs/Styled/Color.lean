import DeclDocs.Decimal.Digits
import DeclDocs.Text.LowerCase
import DeclDocs.Text.Numeral

/-! # Colors

A color is named, or written by its number in a palette of 256, or by its red,
green and blue parts in hexadecimal or in decimal digits.  Upper and lower case
mean the same.
-/
namespace DeclDocs
namespace Styled

/-- Why some words are no style.  A part of a color that is not written at all, or
with too many digits, is worse than a word that is no color. -/
inductive StyleFault where
  | unknown
  | unreadablePart
  deriving DecidableEq, Repr

namespace Color

/-- The names of colors. -/
def names : List String :=
  ["black", "red", "green", "yellow", "blue", "magenta", "cyan", "white", "bright_black",
   "bright_red", "bright_green", "bright_yellow", "bright_blue", "bright_magenta", "bright_cyan",
   "bright_white", "grey0", "gray0", "navy_blue", "dark_blue", "blue3", "blue1", "dark_green",
   "deep_sky_blue4", "dodger_blue3", "dodger_blue2", "green4", "spring_green4", "turquoise4",
   "deep_sky_blue3", "dodger_blue1", "green3", "spring_green3", "dark_cyan", "light_sea_green",
   "deep_sky_blue2", "deep_sky_blue1", "spring_green2", "cyan3", "dark_turquoise", "turquoise2",
   "green1", "spring_green1", "medium_spring_green", "cyan2", "cyan1", "dark_red", "deep_pink4",
   "purple4", "purple3", "blue_violet", "orange4", "grey37", "gray37", "medium_purple4",
   "slate_blue3", "royal_blue1", "chartreuse4", "dark_sea_green4", "pale_turquoise4",
   "steel_blue", "steel_blue3", "cornflower_blue", "chartreuse3", "cadet_blue", "sky_blue3",
   "steel_blue1", "pale_green3", "sea_green3", "aquamarine3", "medium_turquoise", "chartreuse2",
   "sea_green2", "sea_green1", "aquamarine1", "dark_slate_gray2", "dark_magenta", "dark_violet",
   "purple", "light_pink4", "plum4", "medium_purple3", "slate_blue1", "yellow4", "wheat4",
   "grey53", "gray53", "light_slate_grey", "light_slate_gray", "medium_purple",
   "light_slate_blue", "dark_olive_green3", "dark_sea_green", "light_sky_blue3", "sky_blue2",
   "dark_sea_green3", "dark_slate_gray3", "sky_blue1", "chartreuse1", "light_green",
   "pale_green1", "dark_slate_gray1", "red3", "medium_violet_red", "magenta3", "dark_orange3",
   "indian_red", "hot_pink3", "medium_orchid3", "medium_orchid", "medium_purple2",
   "dark_goldenrod", "light_salmon3", "rosy_brown", "grey63", "gray63", "medium_purple1", "gold3",
   "dark_khaki", "navajo_white3", "grey69", "gray69", "light_steel_blue3", "light_steel_blue",
   "yellow3", "dark_sea_green2", "light_cyan3", "light_sky_blue1", "green_yellow",
   "dark_olive_green2", "dark_sea_green1", "pale_turquoise1", "deep_pink3", "magenta2",
   "hot_pink2", "orchid", "medium_orchid1", "orange3", "light_pink3", "pink3", "plum3", "violet",
   "light_goldenrod3", "tan", "misty_rose3", "thistle3", "plum2", "khaki3", "light_goldenrod2",
   "light_yellow3", "grey84", "gray84", "light_steel_blue1", "yellow2", "dark_olive_green1",
   "honeydew2", "light_cyan1", "red1", "deep_pink2", "deep_pink1", "magenta1", "orange_red1",
   "indian_red1", "hot_pink", "dark_orange", "salmon1", "light_coral", "pale_violet_red1",
   "orchid2", "orchid1", "orange1", "sandy_brown", "light_salmon1", "light_pink1", "pink1",
   "plum1", "gold1", "navajo_white1", "misty_rose1", "thistle1", "yellow1", "light_goldenrod1",
   "khaki1", "wheat1", "cornsilk1", "grey100", "gray100", "grey3", "gray3", "grey7", "gray7",
   "grey11", "gray11", "grey15", "gray15", "grey19", "gray19", "grey23", "gray23", "grey27",
   "gray27", "grey30", "gray30", "grey35", "gray35", "grey39", "gray39", "grey42", "gray42",
   "grey46", "gray46", "grey50", "gray50", "grey54", "gray54", "grey58", "gray58", "grey62",
   "gray62", "grey66", "gray66", "grey70", "gray70", "grey74", "gray74", "grey78", "gray78",
   "grey82", "gray82", "grey85", "gray85", "grey89", "gray89", "grey93", "gray93"]

/-- The text between two others. -/
def between? (opening closing : String) (text : List Char) : Option (List Char) :=
  let inner := (text.drop opening.length).take (text.length - opening.length - closing.length)
  if opening.toList ++ inner ++ closing.toList = text then some inner else none

/-- Whether a character is a hexadecimal digit in lower case. -/
def isHexadecimal (c : Char) : Bool :=
  c.isDigit || ('a' ≤ c && c ≤ 'f')

/-- The texts between commas. -/
def parts : List Char → List (List Char)
  | [] => [[]]
  | c :: rest =>
    match parts rest with
    | [] => [[c]]
    | part :: others => if c = ',' then [] :: part :: others else (c :: part) :: others

/-- Whether a red, green or blue part cannot be read. -/
def isUnreadable (part : List Char) : Bool :=
  part.isEmpty || Decimal.digitLimit < part.length

/-- Whether some text between parentheses writes a red, a green and a blue part. -/
def checkParts (text : List Char) : Except StyleFault Unit :=
  if text.isEmpty || !text.all fun c => Text.isDecimalDigit c || c == ',' then .error .unknown
  else
    match parts text with
    | [red, green, blue] =>
      if [red, green, blue].any isUnreadable then .error .unreadablePart
      else if [red, green, blue].all fun part => Text.numeralValue part ≤ 255 then .ok ()
      else .error .unknown
    | _ => .error .unknown

/-- Whether a word in lower case that is no name writes a color. -/
def check (word : List Char) : Except StyleFault Unit :=
  match between? "#" "" word, between? "color(" ")" word, between? "rgb(" ")" word with
  | some digits, _, _ =>
    if digits.length = 6 && digits.all isHexadecimal then .ok () else .error .unknown
  | _, some digits, _ =>
    if !digits.isEmpty && digits.length ≤ 3 && digits.all Char.isDigit &&
        Decimal.digitsValue digits ≤ 255 then .ok ()
    else .error .unknown
  | _, _, some inner => checkParts inner
  | _, _, _ => .error .unknown

/-- The color that a word writes, in lower case. -/
def ofWord (word : String) : Except StyleFault String := do
  let word := Text.lower word
  if word ≠ "default" && !names.contains word then check word.toList
  return word

end Color
end Styled
end DeclDocs
