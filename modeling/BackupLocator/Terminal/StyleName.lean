import BackupLocator.Failure
import BackupLocator.Terminal.EmojiNames
import BackupLocator.Text.LowerCase
import BackupLocator.Text.WholeNumber

/-!
# Names of styles

A style is named by words in any order: attributes, each perhaps after `not`, a colour, `on` and a
background colour, and `link` with an address. Names of one style have one normal form; a text
that names no style stands for itself in lower case.
-/

namespace BackupLocator.Terminal

/-- The names of colours. -/
def colorWords : String := "black red green yellow blue magenta cyan white bright_black bright_red bright_green bright_yellow
bright_blue bright_magenta bright_cyan bright_white grey0 gray0 navy_blue dark_blue blue3 blue1
dark_green deep_sky_blue4 dodger_blue3 dodger_blue2 green4 spring_green4 turquoise4 deep_sky_blue3
dodger_blue1 green3 spring_green3 dark_cyan light_sea_green deep_sky_blue2 deep_sky_blue1
spring_green2 cyan3 dark_turquoise turquoise2 green1 spring_green1 medium_spring_green cyan2 cyan1
dark_red deep_pink4 purple4 purple3 blue_violet orange4 grey37 gray37 medium_purple4 slate_blue3
royal_blue1 chartreuse4 dark_sea_green4 pale_turquoise4 steel_blue steel_blue3 cornflower_blue
chartreuse3 cadet_blue sky_blue3 steel_blue1 pale_green3 sea_green3 aquamarine3 medium_turquoise
chartreuse2 sea_green2 sea_green1 aquamarine1 dark_slate_gray2 dark_magenta dark_violet purple
light_pink4 plum4 medium_purple3 slate_blue1 yellow4 wheat4 grey53 gray53 light_slate_grey
light_slate_gray medium_purple light_slate_blue dark_olive_green3 dark_sea_green light_sky_blue3
sky_blue2 dark_sea_green3 dark_slate_gray3 sky_blue1 chartreuse1 light_green pale_green1
dark_slate_gray1 red3 medium_violet_red magenta3 dark_orange3 indian_red hot_pink3 medium_orchid3
medium_orchid medium_purple2 dark_goldenrod light_salmon3 rosy_brown grey63 gray63 medium_purple1
gold3 dark_khaki navajo_white3 grey69 gray69 light_steel_blue3 light_steel_blue yellow3
dark_sea_green2 light_cyan3 light_sky_blue1 green_yellow dark_olive_green2 dark_sea_green1
pale_turquoise1 deep_pink3 magenta2 hot_pink2 orchid medium_orchid1 orange3 light_pink3 pink3
plum3 violet light_goldenrod3 tan misty_rose3 thistle3 plum2 khaki3 light_goldenrod2 light_yellow3
grey84 gray84 light_steel_blue1 yellow2 dark_olive_green1 honeydew2 light_cyan1 red1 deep_pink2
deep_pink1 magenta1 orange_red1 indian_red1 hot_pink dark_orange salmon1 light_coral
pale_violet_red1 orchid2 orchid1 orange1 sandy_brown light_salmon1 light_pink1 pink1 plum1 gold1
navajo_white1 misty_rose1 thistle1 yellow1 light_goldenrod1 khaki1 wheat1 cornsilk1 grey100
gray100 grey3 gray3 grey7 gray7 grey11 gray11 grey15 gray15 grey19 gray19 grey23 gray23 grey27
gray27 grey30 gray30 grey35 gray35 grey39 gray39 grey42 gray42 grey46 gray46 grey50 gray50 grey54
gray54 grey58 gray58 grey62 gray62 grey66 gray66 grey70 gray70 grey74 gray74 grey78 gray78 grey82
gray82 grey85 gray85 grey89 gray89 grey93 gray93"

/-- The words between blanks. -/
def blankWords (s : List Char) : List (List Char) :=
  (s.splitBy fun a b => Text.isBlank a == Text.isBlank b).filter fun w => !w.any Text.isBlank

namespace StyleName

/-- What a word says about an attribute: its names, the full one first. -/
def attributes : List (List String) :=
  [["bold", "b"], ["dim", "d"], ["italic", "i"], ["underline", "u"], ["blink"], ["blink2"],
    ["reverse", "r"], ["conceal", "c"], ["strike", "s"], ["underline2", "uu"], ["frame"],
    ["encircle"], ["overline", "o"]]

/-- The full name of an attribute. -/
def attribute? (word : List Char) : Option String :=
  (attributes.find? fun names => names.contains (String.ofList word)).bind List.head?

/-- The text in the brackets behind a name. -/
def argument? (name : String) (word : List Char) : Option (List Char) :=
  let start := (name ++ "(").toList
  if start.isPrefixOf word && word.getLast? = some ')' then
    some ((word.drop start.length).dropLast)
  else none

/-- The number that decimal digits make. -/
def number? (ds : List Char) : Option Nat :=
  if ds.isEmpty then none
  else ds.foldl (fun n d => match n, Text.digitValue? d with
    | some n, some d => some (n * 10 + d)
    | _, _ => none) (some 0)

/-- Whether what stands in the brackets behind `rgb` is three numbers up to 255. A missing number,
or one of too many digits, is a fault that ends all reading. -/
def isMixture (argument : List Char) : Except Failure Bool :=
  if argument.isEmpty || argument.any (fun c => c ≠ ',' && (Text.digitValue? c).isNone) then
    .ok false
  else
    let parts := Text.pieces ',' argument
    if parts.length ≠ 3 then .ok false
    else if parts.any fun p => p.isEmpty || Text.WholeNumber.digitLimit < p.length then
      .error .malformed
    else .ok (parts.all fun p => (number? p).any (· ≤ 255))

/-- Whether a word in lower case names a colour. -/
def isColor (word : List Char) : Except Failure Bool :=
  if word = "default".toList || (wordsOf colorWords.toList).contains word then .ok true
  else match word with
    | '#' :: digits =>
      .ok (digits.length = 6 && digits.all fun c => c.isDigit || ('a' ≤ c && c ≤ 'f'))
    | _ =>
      match argument? "color" word, argument? "rgb" word with
      | some digits, _ =>
        .ok (digits.length ≤ 3 && digits.all Char.isDigit && (number? digits).any (· ≤ 255))
      | none, some argument => isMixture argument
      | none, none => .ok false

/-- What the words of a style have said so far. -/
structure Reading where
  /-- The attributes that are set or not, the latest first. -/
  settings : List (String × Bool)
  color : List Char
  background : List Char
  link : List Char
  deriving DecidableEq

/-- What the words of a style say; `none` if they name no style. -/
def read : Reading → List (List Char) → Except Failure (Option Reading)
  | r, [] => .ok (some r)
  | r, word :: words =>
    let low := Text.lower word
    if low = "on".toList then
      match words with
      | [] => .ok none
      | next :: words => do
        if ← isColor (Text.lower next) then read { r with background := Text.lower next } words
        else .ok none
    else if low = "not".toList then
      match words with
      | [] => .ok none
      | next :: words =>
        match attribute? next with
        | some name => read { r with settings := (name, false) :: r.settings } words
        | none => .ok none
    else if low = "link".toList then
      match words with
      | [] => .ok none
      | next :: words => read { r with link := next } words
    else
      match attribute? low with
      | some name => read { r with settings := (name, true) :: r.settings } words
      | none => do
        if ← isColor low then read { r with color := low } words else .ok none

/-- The words of a style in their order. -/
def inOrder (r : Reading) : List (List Char) :=
  let settings := attributes.filterMap fun names => do
    let name ← names.head?
    let isSet ← r.settings.lookup name
    return if isSet then name.toList else ("not " ++ name).toList
  let color := if r.color.isEmpty then [] else [r.color]
  let background := if r.background.isEmpty then [] else ["on".toList, r.background]
  let link := if r.link.isEmpty then [] else ["link".toList, r.link]
  settings ++ color ++ background ++ link

/-- The normal form of the name of a style. -/
def normal (name : List Char) : Except Failure (List Char) := do
  if Text.trim Text.isBlank name = "none".toList then return "none".toList
  match ← read ⟨[], [], [], []⟩ (blankWords name) with
  | some r =>
    let words := inOrder r
    return if words.isEmpty then "none".toList else Text.joinWith ' ' words
  | none => return Text.lower (Text.trim Text.isBlank name)

/-- A style put to use. One that cannot be read is left out, unless its fault ends all reading. -/
def use (style : List Char) : Except Failure Unit :=
  (read ⟨[], [], [], []⟩ (blankWords style)).map fun _ => ()

end StyleName

end BackupLocator.Terminal
