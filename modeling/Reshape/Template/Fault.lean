import Reshape.Path

namespace Reshape.Template

inductive Cause where
  | emptyBlock
  | unterminatedBlock
  | unterminatedString
  | unexpected (c : Char)
  | expectedHead (found : Char)
  | missingFilterName
  | missingArgument
  | missingFallback
  | defaultArity
  | path (fault : Path.Fault)
  deriving DecidableEq

def Cause.message : Cause → String
  | .emptyBlock => "Empty expression block"
  | .unterminatedBlock => "Unterminated expression block"
  | .unterminatedString => "Unterminated string literal"
  | .unexpected c => "Unexpected character '" ++ c.toString ++ "'"
  | .expectedHead c => "Expected path or literal, found '" ++ c.toString ++ "'"
  | .missingFilterName => "Expected filter name after '|'"
  | .missingArgument => "Expected argument after ':'"
  | .missingFallback => "Expected fallback after '??'"
  | .defaultArity => "'default' takes exactly one argument"
  | .path fault => fault.message

/-- A fault stands at the start of `place`, a rest of the text being read. -/
structure Fault where
  cause : Cause
  place : List Char

/-- The byte offset of a place in the text it is a rest of. -/
def offsetOf (text place : List Char) : Nat := Text.byteSize text - Text.byteSize place

end Reshape.Template
