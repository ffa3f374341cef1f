import Reshape.Text.Basic

namespace Reshape

inductive Paint where
  | blue
  | brightBlue
  | green
  | yellow
  | red
  | boldRed
  | dim

namespace Paint

def code : Paint → String
  | .blue => "34"
  | .brightBlue => "94"
  | .green => "32"
  | .yellow => "33"
  | .red => "31"
  | .boldRed => "1;31"
  | .dim => "2"

def escape : List Char := [Char.ofNat 27, '[']

def start (paint : Paint) : List Char := escape ++ paint.code.toList ++ ['m']

def reset : List Char := escape ++ ['0', 'm']

/-- The text in a colour, which is taken up again wherever the text itself resets it. -/
def apply (paint : Paint) (text : String) : String :=
  let inner := Text.joinWith (reset ++ paint.start) (Text.splitOn reset text.toList)
  String.ofList (paint.start ++ inner ++ reset)

def applyIf (color : Bool) (paint : Paint) (text : String) : String :=
  if color then paint.apply text else text

end Paint

end Reshape
