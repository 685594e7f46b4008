import JsonShape.Number.Integer
import JsonShape.Text.Lower

/-!
# Styles

A style is named by words: attributes, colours, a background after `on`, a link after `link`, and
`not` before an attribute that is off.  Names with the same effect have one normal form; a name of
something else is its own.
-/

namespace JsonShape

/-- What the words of a style say. -/
structure Style where
  /-- The attributes in the order of the words; the last word on an attribute counts. -/
  attributes : List (Text × Bool) := []
  foreground : Option Text := none
  background : Option Text := none
  link : Option Text := none

namespace Style

/-- Why words are no style. -/
inductive Fault
  /-- They name something else. -/
  | unknown
  /-- A component of a colour is no number. -/
  | badComponent

/-! ### Attributes -/

/-- The attributes in the order of the normal form. -/
def attributeNames : List Text :=
  ["bold", "dim", "italic", "underline", "blink", "blink2", "reverse", "conceal", "strike",
    "underline2", "frame", "encircle", "overline"]

/-- The short names of attributes. -/
def shortNames : List (Text × Text) :=
  [("d", "dim"), ("b", "bold"), ("i", "italic"), ("u", "underline"), ("r", "reverse"),
    ("c", "conceal"), ("s", "strike"), ("uu", "underline2"), ("o", "overline")]

/-- The attribute of a word. -/
def attribute? (word : Text) : Option Text :=
  if attributeNames.contains word then some word else shortNames.lookup word

/-! ### Colours -/

/-- The names of the colours. -/
def colourListing : String := "
black red green yellow blue magenta cyan white bright_black bright_red bright_green
bright_yellow bright_blue bright_magenta bright_cyan bright_white grey0 gray0 navy_blue
dark_blue blue3 blue1 dark_green deep_sky_blue4 dodger_blue3 dodger_blue2 green4 spring_green4
turquoise4 deep_sky_blue3 dodger_blue1 green3 spring_green3 dark_cyan light_sea_green
deep_sky_blue2 deep_sky_blue1 spring_green2 cyan3 dark_turquoise turquoise2 green1
spring_green1 medium_spring_green cyan2 cyan1 dark_red deep_pink4 purple4 purple3 blue_violet
orange4 grey37 gray37 medium_purple4 slate_blue3 royal_blue1 chartreuse4 dark_sea_green4
pale_turquoise4 steel_blue steel_blue3 cornflower_blue chartreuse3 cadet_blue sky_blue3
steel_blue1 pale_green3 sea_green3 aquamarine3 medium_turquoise chartreuse2 sea_green2
sea_green1 aquamarine1 dark_slate_gray2 dark_magenta dark_violet purple light_pink4 plum4
medium_purple3 slate_blue1 yellow4 wheat4 grey53 gray53 light_slate_grey light_slate_gray
medium_purple light_slate_blue dark_olive_green3 dark_sea_green light_sky_blue3 sky_blue2
dark_sea_green3 dark_slate_gray3 sky_blue1 chartreuse1 light_green pale_green1
dark_slate_gray1 red3 medium_violet_red magenta3 dark_orange3 indian_red hot_pink3
medium_orchid3 medium_orchid medium_purple2 dark_goldenrod light_salmon3 rosy_brown grey63
gray63 medium_purple1 gold3 dark_khaki navajo_white3 grey69 gray69 light_steel_blue3
light_steel_blue yellow3 dark_sea_green2 light_cyan3 light_sky_blue1 green_yellow
dark_olive_green2 dark_sea_green1 pale_turquoise1 deep_pink3 magenta2 hot_pink2 orchid
medium_orchid1 orange3 light_pink3 pink3 plum3 violet light_goldenrod3 tan misty_rose3
thistle3 plum2 khaki3 light_goldenrod2 light_yellow3 grey84 gray84 light_steel_blue1 yellow2
dark_olive_green1 honeydew2 light_cyan1 red1 deep_pink2 deep_pink1 magenta1 orange_red1
indian_red1 hot_pink dark_orange salmon1 light_coral pale_violet_red1 orchid2 orchid1 orange1
sandy_brown light_salmon1 light_pink1 pink1 plum1 gold1 navajo_white1 misty_rose1 thistle1
yellow1 light_goldenrod1 khaki1 wheat1 cornsilk1 grey100 gray100 grey3 gray3 grey7 gray7
grey11 gray11 grey15 gray15 grey19 gray19 grey23 gray23 grey27 gray27 grey30 gray30 grey35
gray35 grey39 gray39 grey42 gray42 grey46 gray46 grey50 gray50 grey54 gray54 grey58 gray58
grey62 gray62 grey66 gray66 grey70 gray70 grey74 gray74 grey78 gray78 grey82 gray82 grey85
gray85 grey89 gray89 grey93 gray93
"

/-- Whether a word names a colour. -/
def isColourName (word : Text) : Bool :=
  (colourListing.splitOn "\n").any fun row =>
    (row.splitOn " ").any fun name => word ≠ [] && Text.ofString name = word

/-- What stands in brackets after a word. -/
def inBrackets? (word t : Text) : Option Text :=
  match t.after? (word ++ "(") with
  | some rest => if rest.getLast? = some ')' then some rest.dropLast else none
  | none => none

/-- Whether a text is a number of a colour: up to three digits, below 256. -/
def isColourNumber (t : Text) : Bool :=
  0 < t.length && t.length ≤ 3 && t.all CodePoint.isDigit && Numeral.value t < 256

/-- Whether a text is three components of a colour, each below 256. -/
def checkComponents (t : Text) : Except Fault Unit := do
  if t = [] || !t.all fun c => c = ',' || c.decimalValue?.isSome then .error .unknown
  let parts := t.split ','
  if parts.length ≠ 3 then .error .unknown
  let values ← parts.mapM fun p => (Integer.read 10 p).mapError fun _ => .badComponent
  if values.all (· < 256) then .ok () else .error .unknown

/-- The colour of a word, in small letters. -/
def colourOf (word : Text) : Except Fault Text := do
  let t := word.lower
  if t = Text.ofString "default" || isColourName t then .ok t
  else
    match t with
    | [] => .error .unknown
    | c :: digits =>
      if c = '#' then
        if digits.length = 6 && digits.all fun d => d.hexValue?.isSome then .ok t
        else .error .unknown
      else
        match inBrackets? "color" t, inBrackets? "rgb" t with
        | some n, _ => if isColourNumber n then .ok t else .error .unknown
        | _, some components => (checkComponents components).map fun _ => t
        | _, _ => .error .unknown

/-! ### Words -/

/-- Reads the words of a style on. -/
def read (s : Style) : List Text → Except Fault Style
  | [] => .ok s
  | word :: rest =>
    let small := word.lower
    if small = Text.ofString "on" then
      match rest with
      | [] => .error .unknown
      | word :: rest => do
        let c ← colourOf word
        read { s with background := some c } rest
    else if small = Text.ofString "not" then
      match rest with
      | [] => .error .unknown
      | word :: rest =>
        match attribute? word with
        | some a => read { s with attributes := s.attributes ++ [(a, false)] } rest
        | none => .error .unknown
    else if small = Text.ofString "link" then
      match rest with
      | [] => .error .unknown
      | word :: rest => read { s with link := some word } rest
    else
      match attribute? small with
      | some a => read { s with attributes := s.attributes ++ [(a, true)] } rest
      | none => do
        let c ← colourOf small
        read { s with foreground := some c } rest

/-- The words of a text between spaces. -/
def wordsOf (t : Text) : List Text := (t.splitWhere CodePoint.isSpace).filter (· ≠ [])

/-- The words of the normal form. -/
def words (s : Style) : List Text :=
  let worded (a : Text) : List Text :=
    match s.attributes.reverse.lookup a with
    | some true => [a]
    | some false => [Text.ofString "not", a]
    | none => []
  let after (word : String) (t : Option Text) : List Text :=
    t.elim [] fun t => [Text.ofString word, t]
  attributeNames.flatMap worded ++ s.foreground.toList ++ after "on" s.background
    ++ after "link" s.link

/-- The normal form of a style. -/
def text (s : Style) : Text := if s.words = [] then "none" else Text.join " " s.words

/-- **The normal form of a name.** -/
def normalForm (name : Text) : Except Fault Text :=
  if name = [] || name.trim = Text.ofString "none" then .ok "none"
  else
    match read {} (wordsOf name) with
    | .ok s => .ok s.text
    | .error .unknown => .ok name.trim.lower
    | .error .badComponent => .error .badComponent

end Style

end JsonShape
