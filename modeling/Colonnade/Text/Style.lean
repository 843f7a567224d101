import Colonnade.Text.Blank
import Colonnade.Text.Case
import Colonnade.Decimal.Read
/-!
# Console styles

A style is written as words: attributes, `not`, a color, `on` a background, `link` a link. Its
canonical form lists them in a fixed order; a definition that is not a style stands for itself,
trimmed and lower-cased.
-/

namespace Colonnade.Text

def colorNames : List String :=
  ("black red green yellow blue magenta cyan white bright_black bright_red bright_green " ++
  "bright_yellow bright_blue bright_magenta bright_cyan bright_white grey0 gray0 navy_blue " ++
  "dark_blue blue3 blue1 dark_green deep_sky_blue4 dodger_blue3 dodger_blue2 green4 " ++
  "spring_green4 turquoise4 deep_sky_blue3 dodger_blue1 green3 spring_green3 dark_cyan " ++
  "light_sea_green deep_sky_blue2 deep_sky_blue1 spring_green2 cyan3 dark_turquoise turquoise2 " ++
  "green1 spring_green1 medium_spring_green cyan2 cyan1 dark_red deep_pink4 purple4 purple3 " ++
  "blue_violet orange4 grey37 gray37 medium_purple4 slate_blue3 royal_blue1 chartreuse4 " ++
  "dark_sea_green4 pale_turquoise4 steel_blue steel_blue3 cornflower_blue chartreuse3 " ++
  "cadet_blue sky_blue3 steel_blue1 pale_green3 sea_green3 aquamarine3 medium_turquoise " ++
  "chartreuse2 sea_green2 sea_green1 aquamarine1 dark_slate_gray2 dark_magenta dark_violet " ++
  "purple light_pink4 plum4 medium_purple3 slate_blue1 yellow4 wheat4 grey53 gray53 " ++
  "light_slate_grey light_slate_gray medium_purple light_slate_blue dark_olive_green3 " ++
  "dark_sea_green light_sky_blue3 sky_blue2 dark_sea_green3 dark_slate_gray3 sky_blue1 " ++
  "chartreuse1 light_green pale_green1 dark_slate_gray1 red3 medium_violet_red magenta3 " ++
  "dark_orange3 indian_red hot_pink3 medium_orchid3 medium_orchid medium_purple2 " ++
  "dark_goldenrod light_salmon3 rosy_brown grey63 gray63 medium_purple1 gold3 dark_khaki " ++
  "navajo_white3 grey69 gray69 light_steel_blue3 light_steel_blue yellow3 dark_sea_green2 " ++
  "light_cyan3 light_sky_blue1 green_yellow dark_olive_green2 dark_sea_green1 pale_turquoise1 " ++
  "deep_pink3 magenta2 hot_pink2 orchid medium_orchid1 orange3 light_pink3 pink3 plum3 violet " ++
  "light_goldenrod3 tan misty_rose3 thistle3 plum2 khaki3 light_goldenrod2 light_yellow3 " ++
  "grey84 gray84 light_steel_blue1 yellow2 dark_olive_green1 honeydew2 light_cyan1 red1 " ++
  "deep_pink2 deep_pink1 magenta1 orange_red1 indian_red1 hot_pink dark_orange salmon1 " ++
  "light_coral pale_violet_red1 orchid2 orchid1 orange1 sandy_brown light_salmon1 light_pink1 " ++
  "pink1 plum1 gold1 navajo_white1 misty_rose1 thistle1 yellow1 light_goldenrod1 khaki1 wheat1 " ++
  "cornsilk1 grey100 gray100 grey3 gray3 grey7 gray7 grey11 gray11 grey15 gray15 grey19 gray19 " ++
  "grey23 gray23 grey27 gray27 grey30 gray30 grey35 gray35 grey39 gray39 grey42 gray42 grey46 " ++
  "gray46 grey50 gray50 grey54 gray54 grey58 gray58 grey62 gray62 grey66 gray66 grey70 gray70 " ++
  "grey74 gray74 grey78 gray78 grey82 gray82 grey85 gray85 grey89 gray89 grey93 gray93").splitOn " "

/-- The attributes in their canonical order, each with the words that name it. -/
def attributeWords : List (String × List String) :=
  [("bold", ["bold", "b"]), ("dim", ["dim", "d"]), ("italic", ["italic", "i"]),
   ("underline", ["underline", "u"]), ("blink", ["blink"]), ("blink2", ["blink2"]),
   ("reverse", ["reverse", "r"]), ("conceal", ["conceal", "c"]), ("strike", ["strike", "s"]),
   ("underline2", ["underline2", "uu"]), ("frame", ["frame"]), ("encircle", ["encircle"]),
   ("overline", ["overline", "o"])]

def attributeOf? (word : String) : Option String :=
  (attributeWords.find? fun (_, ws) => ws.contains word).map Prod.fst

def stripText (s : String) : String := String.ofList (dropBlanksEnd (dropBlanks s.toList))

def wordsOf (s : String) : List String :=
  let rec go : List Char → List Char → List String
    | [], cur => if cur.isEmpty then [] else [String.ofList cur.reverse]
    | c :: rest, cur =>
      if isBlank c then (if cur.isEmpty then go rest [] else String.ofList cur.reverse :: go rest [])
      else go rest (c :: cur)
  go s.toList []

/-- Whether a text reads as a color, in lower case and trimmed; a fault of the host when a part
of `rgb(…)` is not a number. -/
def isColor (word : String) : Except String Bool :=
  let c := lower (stripText word)
  let cs := c.toList
  if c == "default" || colorNames.contains c then .ok true
  else match cs with
  | '#' :: hex =>
    .ok (hex.length == 6 && hex.all fun d => ('0' ≤ d && d ≤ '9') || ('a' ≤ d && d ≤ 'f'))
  | 'c' :: 'o' :: 'l' :: 'o' :: 'r' :: '(' :: rest =>
    let ds := rest.takeWhile fun d => '0' ≤ d && d ≤ '9'
    .ok (1 ≤ ds.length && ds.length ≤ 3 && rest.drop ds.length == [')'] &&
      Decimal.digitsValue (ds.map fun d => d.toNat - 48) ≤ 255)
  | 'r' :: 'g' :: 'b' :: '(' :: rest =>
    let inner := rest.takeWhile fun d => d != ')'
    if !(rest.drop inner.length == [')'] && !inner.isEmpty &&
        inner.all fun d => isDecimalDigit d || isBlank d || d == ',') then .ok false
    else
      let parts := (String.ofList inner).splitOn ","
      if parts.length != 3 then .ok false
      else
        let values := parts.map fun p => Decimal.readInt p 10
        if values.any fun v => match v with | .value _ => false | _ => true then .error "ValueError"
        else .ok (values.all fun v => match v with | .value n => n ≤ 255 | _ => false)
  | _ => .ok false

/-- The canonical form of a style definition, or none when it is not a style. -/
def styleForm? (definition : String) : Except String (Option String) := do
  if stripText definition == "none" || definition.isEmpty then return some "none"
  let mut color : Option String := none
  let mut background : Option String := none
  let mut link : Option String := none
  let mut attributes : List (String × Bool) := []
  let mut words := wordsOf definition
  for _ in [0:words.length + 1] do
    match words with
    | [] => break
    | given :: rest =>
      words := rest
      let word := lower given
      if word == "on" then
        match rest with
        | next :: more =>
          words := more
          if !(← isColor next) then return none
          background := some next
        | [] => return none
      else if word == "not" then
        match rest with
        | next :: more =>
          words := more
          match attributeOf? next with
          | some a => attributes := (a, false) :: attributes.filter (·.1 != a)
          | none => return none
        | [] => return none
      else if word == "link" then
        match rest with
        | next :: more =>
          words := more
          link := some next
        | [] => return none
      else match attributeOf? word with
        | some a => attributes := (a, true) :: attributes.filter (·.1 != a)
        | none =>
          if !(← isColor word) then return none
          color := some word
  let parts := (attributeWords.filterMap fun (a, _) =>
      (attributes.lookup a).map fun on => if on then a else "not " ++ a) ++
    (color.map fun c => lower (stripText c)).toList ++
    (match background with
     | some b => ["on", lower (stripText b)]
     | none => []) ++
    (match link with
     | some l => ["link", l]
     | none => [])
  return some (if parts.isEmpty then "none" else " ".intercalate parts)

/-- The normal form of a style definition: its canonical form, or the definition trimmed and in
lower case when it is not a style. -/
def normalStyle (definition : String) : Except String String := do
  match ← styleForm? definition with
  | some form => return form
  | none => return lower (stripText definition)

end Colonnade.Text
