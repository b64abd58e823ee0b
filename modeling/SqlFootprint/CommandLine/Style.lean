/-!
# Styled text

Text for a terminal, with the codes that select a style before it and the one that ends it behind
it.
-/

namespace SqlFootprint.CommandLine

/-- A style of letters. -/
inductive Style where
  | plain
  | bold
  | red
  | green
  | yellow
  | cyan
  | brightBlue
  | boldRed
  | boldGreen
  | boldYellow
  | boldBrightBlue
deriving DecidableEq, Repr

namespace Style

/-- The numbers that select a style. -/
def code : Style → String
  | plain => ""
  | bold => "1"
  | red => "31"
  | green => "32"
  | yellow => "33"
  | cyan => "36"
  | brightBlue => "94"
  | boldRed => "1;31"
  | boldGreen => "1;32"
  | boldYellow => "1;33"
  | boldBrightBlue => "1;94"

/-- Text in a style, on a terminal that shows colours or one that does not. -/
def paint (style : Style) (colour : Bool) (text : String) : String :=
  if colour && style != plain then "\x1b[" ++ style.code ++ "m" ++ text ++ "\x1b[0m" else text

end Style

end SqlFootprint.CommandLine
