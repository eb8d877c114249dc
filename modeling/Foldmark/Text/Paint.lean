/-! Colours of a terminal. -/
namespace Foldmark

inductive Style
  | bold | dimmed | red | green | yellow | blue | cyan
deriving DecidableEq, Repr

namespace Style

def sequence : Style → String
  | .bold => "\x1b[1m"
  | .dimmed => "\x1b[2m"
  | .red => "\x1b[31m"
  | .green => "\x1b[32m"
  | .yellow => "\x1b[33m"
  | .blue => "\x1b[34m"
  | .cyan => "\x1b[36m"

def reset : String := "\x1b[0m"

/-- A text in a style, where colours are on. The style is turned on again where the text turns it
off. -/
def paint (style : Style) (colours : Bool) (text : String) : String :=
  if colours then
    style.sequence ++ text.replace reset (reset ++ style.sequence) ++ reset
  else text

end Style

end Foldmark
