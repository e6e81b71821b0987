import PltKeeper.Failure
import PltKeeper.Text.LowerCase
import PltKeeper.Text.Numeral

/-!
Styles as tags name them: words that set or clear attributes, a colour, a colour behind the text and
a link. Two spellings with one effect have one canonical name; a text that is no style is its own
name, in lower case. A colour whose components are no numbers is neither: it is a fault.
-/

namespace PltKeeper.Console

/-- The words that set an attribute of the text, with the name of each attribute, in the order in
which attributes are named. -/
def attributeWords : List (String × String) :=
  [("bold", "bold"), ("b", "bold"), ("dim", "dim"), ("d", "dim"), ("italic", "italic"),
   ("i", "italic"), ("underline", "underline"), ("u", "underline"), ("blink", "blink"),
   ("blink2", "blink2"), ("reverse", "reverse"), ("r", "reverse"), ("conceal", "conceal"),
   ("c", "conceal"), ("strike", "strike"), ("s", "strike"), ("underline2", "underline2"),
   ("uu", "underline2"), ("frame", "frame"), ("encircle", "encircle"),
   ("overline", "overline"), ("o", "overline")]

/-- The attributes, in the order in which they are named. -/
def attributeNames : List String := (attributeWords.map (·.2)).eraseDups

/-- The colours that have names of their own. Shades of grey are apart. -/
def hueNames : List String :=
  ["default", "black", "red", "green", "yellow", "blue", "magenta", "cyan", "white",
   "bright_black", "bright_red", "bright_green", "bright_yellow", "bright_blue", "bright_magenta",
   "bright_cyan", "bright_white", "navy_blue", "dark_blue", "blue3", "blue1", "dark_green",
   "deep_sky_blue4", "dodger_blue3", "dodger_blue2", "green4", "spring_green4", "turquoise4",
   "deep_sky_blue3", "dodger_blue1", "green3", "spring_green3", "dark_cyan", "light_sea_green",
   "deep_sky_blue2", "deep_sky_blue1", "spring_green2", "cyan3", "dark_turquoise", "turquoise2",
   "green1", "spring_green1", "medium_spring_green", "cyan2", "cyan1", "dark_red", "deep_pink4",
   "purple4", "purple3", "blue_violet", "orange4", "medium_purple4", "slate_blue3", "royal_blue1",
   "chartreuse4", "dark_sea_green4", "pale_turquoise4", "steel_blue", "steel_blue3",
   "cornflower_blue", "chartreuse3", "cadet_blue", "sky_blue3", "steel_blue1", "pale_green3",
   "sea_green3", "aquamarine3", "medium_turquoise", "chartreuse2", "sea_green2", "sea_green1",
   "aquamarine1", "dark_slate_gray2", "dark_magenta", "dark_violet", "purple", "light_pink4",
   "plum4", "medium_purple3", "slate_blue1", "yellow4", "wheat4", "light_slate_grey",
   "light_slate_gray", "medium_purple", "light_slate_blue", "dark_olive_green3", "dark_sea_green",
   "light_sky_blue3", "sky_blue2", "dark_sea_green3", "dark_slate_gray3", "sky_blue1",
   "chartreuse1", "light_green", "pale_green1", "dark_slate_gray1", "red3", "medium_violet_red",
   "magenta3", "dark_orange3", "indian_red", "hot_pink3", "medium_orchid3", "medium_orchid",
   "medium_purple2", "dark_goldenrod", "light_salmon3", "rosy_brown", "medium_purple1", "gold3",
   "dark_khaki", "navajo_white3", "light_steel_blue3", "light_steel_blue", "yellow3",
   "dark_sea_green2", "light_cyan3", "light_sky_blue1", "green_yellow", "dark_olive_green2",
   "dark_sea_green1", "pale_turquoise1", "deep_pink3", "magenta2", "hot_pink2", "orchid",
   "medium_orchid1", "orange3", "light_pink3", "pink3", "plum3", "violet", "light_goldenrod3",
   "tan", "misty_rose3", "thistle3", "plum2", "khaki3", "light_goldenrod2", "light_yellow3",
   "light_steel_blue1", "yellow2", "dark_olive_green1", "honeydew2", "light_cyan1", "red1",
   "deep_pink2", "deep_pink1", "magenta1", "orange_red1", "indian_red1", "hot_pink", "dark_orange",
   "salmon1", "light_coral", "pale_violet_red1", "orchid2", "orchid1", "orange1", "sandy_brown",
   "light_salmon1", "light_pink1", "pink1", "plum1", "gold1", "navajo_white1", "misty_rose1",
   "thistle1", "yellow1", "light_goldenrod1", "khaki1", "wheat1", "cornsilk1"]

/-- The shades of grey, in hundredths of white. -/
def greyShades : List Nat :=
  [0, 3, 7, 11, 15, 19, 23, 27, 30, 35, 37, 39, 42, 46, 50, 53, 54, 58, 62, 63, 66, 69, 70, 74, 78,
   82, 84, 85, 89, 93, 100]

/-- The names of all colours. -/
def colourNames : List String :=
  hueNames ++ greyShades.flatMap fun n => [s!"grey{n}", s!"gray{n}"]

/-- What stands between a word with an opening parenthesis and the closing one. -/
def argument? (word : String) (s : List Char) : Option (List Char) :=
  match (word.toList ++ ['(']).isPrefixOf? s with
  | some rest => if rest.getLast? = some ')' then some rest.dropLast else none
  | none => none

/-- Why words are no style. -/
inductive StyleFault
  /-- They describe none. -/
  | notAStyle
  /-- The component of a colour is no number, in words. -/
  | badComponent (text : String)
  deriving DecidableEq, Repr

/-- Whether a lower case text is six hexadecimal digits after a hash sign. -/
def isHexColour (s : List Char) : Bool :=
  s.head? = some '#' && s.length = 7 &&
    s.tail.all fun c => c.isDigit || ('a' ≤ c && c ≤ 'f')

/-- Whether a text is the number of a colour: at most three digits and at most 255. -/
def isColourNumber (s : List Char) : Bool :=
  !s.isEmpty && s.length ≤ 3 && s.all Char.isDigit && Text.ofDigits s ≤ 255

/-- The number that a component of a colour spells. -/
def readComponent (s : List Char) : Except StyleFault Int :=
  (Text.readInt s).mapError fun fault => .badComponent (fault.message (String.ofList s))

/-- Three components between commas, in digits of any script, none above 255. -/
def checkComponents (s : List Char) : Except StyleFault Unit :=
  if s.isEmpty || !s.all (fun c => c = ',' || Text.isDigit c) then .error .notAStyle
  else match s.splitOn ',' with
    | [red, green, blue] => do
      let components ← [red, green, blue].mapM readComponent
      if components.all (· ≤ 255) then return () else .error .notAStyle
    | _ => .error .notAStyle

/-- Checks that a lower case text names a colour: by a name, by six hexadecimal digits, by a number,
or by three components. -/
def checkColour (s : List Char) : Except StyleFault Unit :=
  if isHexColour s || colourNames.contains (String.ofList s) ||
      (argument? "color" s).any isColourNumber then .ok ()
  else match argument? "rgb" s with
    | some components => checkComponents components
    | none => .error .notAStyle

/-- A style. -/
structure Style where
  /-- The attributes that are set or cleared. -/
  attributes : List (String × Bool) := []
  /-- The colour. -/
  colour : Option (List Char) := none
  /-- The colour behind the text. -/
  behind : Option (List Char) := none
  /-- The link. -/
  link : Option (List Char) := none
  deriving DecidableEq, Repr

namespace Style

/-- The style that words describe, on top of another. Later words win over earlier ones. -/
def ofWords (style : Style) : List (List Char) → Except StyleFault Style
  | [] => .ok style
  | word :: rest =>
    let lowered := Text.lower word
    let named := String.ofList lowered
    if named = "on" then
      match rest with
      | behind :: rest => do
        let behind := Text.lower behind
        checkColour behind
        ofWords { style with behind := some behind } rest
      | [] => .error .notAStyle
    else if named = "not" then
      match rest with
      | cleared :: rest =>
        match attributeWords.lookup (String.ofList cleared) with
        | some name =>
          ofWords { style with attributes := (name, false) :: style.attributes } rest
        | none => .error .notAStyle
      | [] => .error .notAStyle
    else if named = "link" then
      match rest with
      | link :: rest => ofWords { style with link := some link } rest
      | [] => .error .notAStyle
    else match attributeWords.lookup named with
      | some name => ofWords { style with attributes := (name, true) :: style.attributes } rest
      | none => do
        checkColour lowered
        ofWords { style with colour := some lowered } rest

/-- The canonical words of a style. -/
def words (style : Style) : List String :=
  (attributeNames.filterMap fun name =>
    (style.attributes.lookup name).map fun set => if set then name else "not " ++ name) ++
  (style.colour.map String.ofList).toList ++
  (style.behind.map fun c => "on " ++ String.ofList c).toList ++
  (style.link.map fun l => "link " ++ String.ofList l).toList

/-- The words of a text. -/
def split (s : List Char) : List (List Char) :=
  (s.splitOnP Text.isBlank).filter (!·.isEmpty)

/-- The style that a text describes. -/
def ofText (s : List Char) : Except StyleFault Style :=
  if Text.strip s = "none".toList then .ok {} else ofWords {} (split s)

/-- The name under which a style is open. -/
def canonicalName (s : List Char) : Except Failure String :=
  match ofText s with
  | .ok style =>
    .ok (if style.words.isEmpty then "none" else " ".intercalate style.words)
  | .error .notAStyle => .ok (String.ofList (Text.lower (Text.strip s)))
  | .error (.badComponent text) => .error (.badValue text)

/-- Checks that a text can be applied as a style. One that describes none is applied as an empty
one. -/
def checkApplied (s : List Char) : Except Failure Unit :=
  match ofText s with
  | .error (.badComponent text) => .error (.badValue text)
  | _ => .ok ()

end Style

end PltKeeper.Console
