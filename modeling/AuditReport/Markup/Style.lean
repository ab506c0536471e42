import AuditReport.Fault
import AuditReport.Text.LowerCase
import AuditReport.Text.Split
import AuditReport.Text.Words

/-!
# Styles

A style is written in words: attributes, a colour, a background after `on`, and a link. Two texts
name the same style when their usual forms are equal; a text that describes no style is a name, of
which letter case does not count.
-/
namespace AuditReport.Markup

/-- What attributes are called, each name followed by its short form where there is one. They are
told in this order. -/
def attributeNames : List (List String) := [
  ["bold", "b"], ["dim", "d"], ["italic", "i"], ["underline", "u"], ["blink"], ["blink2"],
  ["reverse", "r"], ["conceal", "c"], ["strike", "s"], ["underline2", "uu"], ["frame"],
  ["encircle"], ["overline", "o"]]

def attribute? (word : String) : Option String :=
  (attributeNames.find? (·.contains word)).bind List.head?

def colorNames : List (List Char) := Text.words "
    black red green yellow blue magenta cyan white bright_black bright_red bright_green
    bright_yellow bright_blue bright_magenta bright_cyan bright_white grey0 gray0 navy_blue
    dark_blue blue3 blue1 dark_green deep_sky_blue4 dodger_blue3 dodger_blue2 green4
    spring_green4 turquoise4 deep_sky_blue3 dodger_blue1 green3 spring_green3 dark_cyan
    light_sea_green deep_sky_blue2 deep_sky_blue1 spring_green2 cyan3 dark_turquoise turquoise2
    green1 spring_green1 medium_spring_green cyan2 cyan1 dark_red deep_pink4 purple4 purple3
    blue_violet orange4 grey37 gray37 medium_purple4 slate_blue3 royal_blue1 chartreuse4
    dark_sea_green4 pale_turquoise4 steel_blue steel_blue3 cornflower_blue chartreuse3 cadet_blue
    sky_blue3 steel_blue1 pale_green3 sea_green3 aquamarine3 medium_turquoise chartreuse2
    sea_green2 sea_green1 aquamarine1 dark_slate_gray2 dark_magenta dark_violet purple
    light_pink4 plum4 medium_purple3 slate_blue1 yellow4 wheat4 grey53 gray53 light_slate_grey
    light_slate_gray medium_purple light_slate_blue dark_olive_green3 dark_sea_green
    light_sky_blue3 sky_blue2 dark_sea_green3 dark_slate_gray3 sky_blue1 chartreuse1 light_green
    pale_green1 dark_slate_gray1 red3 medium_violet_red magenta3 dark_orange3 indian_red
    hot_pink3 medium_orchid3 medium_orchid medium_purple2 dark_goldenrod light_salmon3 rosy_brown
    grey63 gray63 medium_purple1 gold3 dark_khaki navajo_white3 grey69 gray69 light_steel_blue3
    light_steel_blue yellow3 dark_sea_green2 light_cyan3 light_sky_blue1 green_yellow
    dark_olive_green2 dark_sea_green1 pale_turquoise1 deep_pink3 magenta2 hot_pink2 orchid
    medium_orchid1 orange3 light_pink3 pink3 plum3 violet light_goldenrod3 tan misty_rose3
    thistle3 plum2 khaki3 light_goldenrod2 light_yellow3 grey84 gray84 light_steel_blue1 yellow2
    dark_olive_green1 honeydew2 light_cyan1 red1 deep_pink2 deep_pink1 magenta1 orange_red1
    indian_red1 hot_pink dark_orange salmon1 light_coral pale_violet_red1 orchid2 orchid1 orange1
    sandy_brown light_salmon1 light_pink1 pink1 plum1 gold1 navajo_white1 misty_rose1 thistle1
    yellow1 light_goldenrod1 khaki1 wheat1 cornsilk1 grey100 gray100 grey3 gray3 grey7 gray7
    grey11 gray11 grey15 gray15 grey19 gray19 grey23 gray23 grey27 gray27 grey30 gray30 grey35
    gray35 grey39 gray39 grey42 gray42 grey46 gray46 grey50 gray50 grey54 gray54 grey58 gray58
    grey62 gray62 grey66 gray66 grey70 gray70 grey74 gray74 grey78 gray78 grey82 gray82 grey85
    gray85 grey89 gray89 grey93 gray93".toList

/-- The digits of a list of numbers, if it holds no other characters than digits and commas. -/
def componentDigits? (s : List Char) : Option (List (List Nat)) :=
  (Text.pieces ',' s).mapM fun p => p.mapM Text.digitValue?

/-- Whether three components make a colour. A component without digits is a fault. -/
def isComponents (s : List Char) : Except MarkupFlaw Bool :=
  match componentDigits? s with
  | some [r, g, b] =>
    if [r, g, b].any fun ds => ds.isEmpty || decide (Text.Numeral.maxDigits < ds.length) then
      .error .colorComponent
    else .ok ([r, g, b].all fun ds => decide (Text.Numeral.value ds ≤ 255))
  | _ => .ok false

/-- What stands between an opening word and a closing bracket at the end. -/
def bracketed? (opening : String) (s : List Char) : Option (List Char) :=
  if opening.toList.isPrefixOf s && s.getLast? == some ')' then
    some ((s.drop opening.length).dropLast)
  else none

/-- Whether a word of small letters is a colour: a name, six hexadecimal digits after a hash, a
number up to 255, or three components. -/
def isColor (word : List Char) : Except MarkupFlaw Bool :=
  if word = "default".toList || colorNames.contains word then .ok true
  else
    match word with
    | '#' :: ds =>
      .ok (ds.length == 6 && ds.all fun d => d.isDigit || ('a' ≤ d && d ≤ 'f'))
    | _ =>
      match bracketed? "color(" word, bracketed? "rgb(" word with
      | some ds, _ =>
        .ok (!ds.isEmpty && decide (ds.length ≤ 3) && ds.all Char.isDigit &&
          decide (Text.Numeral.value (ds.map fun d => d.toNat - 48) ≤ 255))
      | none, some s => isComponents s
      | none, none => .ok false

structure Style where
  attributes : List (String × Bool)
  color : Option String
  background : Option String
  link : Option String
  deriving DecidableEq, Repr, Inhabited

namespace Style

def plain : Style := ⟨[], none, none, none⟩

/-- The style that words add to one, none when they describe no style. -/
def ofWords (s : Style) : List String → Except MarkupFlaw (Option Style)
  | [] => .ok (some s)
  | word :: rest =>
    let small := Text.lowerCase word
    if small = "on" then
      match rest with
      | [] => .ok none
      | c :: rest => do
        if ← isColor (Text.lowerCase c).toList then
          ofWords { s with background := some (Text.lowerCase c) } rest
        else return none
    else if small = "not" then
      match rest with
      | [] => .ok none
      | a :: rest =>
        match attribute? a with
        | some a => ofWords { s with attributes := (a, false) :: s.attributes } rest
        | none => .ok none
    else if small = "link" then
      match rest with
      | [] => .ok none
      | l :: rest => ofWords { s with link := some l } rest
    else
      match attribute? small with
      | some a => ofWords { s with attributes := (a, true) :: s.attributes } rest
      | none => do
        if ← isColor small.toList then ofWords { s with color := some small } rest
        else return none

def toWords (s : Style) : List String :=
  let attributes := attributeNames.filterMap fun names =>
    names.head?.bind fun name => (s.attributes.find? (·.1 == name)).map fun (_, wanted) =>
      if wanted then name else "not " ++ name
  attributes ++ s.color.toList ++ (s.background.toList.map ("on " ++ ·)) ++
    (s.link.toList.map ("link " ++ ·))

def usualText (text : List Char) : Except MarkupFlaw String := do
  let words := (Text.words text).map String.ofList
  if words = ["none"] then return "none"
  match ← ofWords plain words with
  | none => return Text.lowerCase (String.ofList (Text.trim text))
  | some s => return if s.toWords.isEmpty then "none" else " ".intercalate s.toWords

end Style
end AuditReport.Markup
