import Reshape.Error
import Reshape.Template.Expr
import Reshape.Template.Token

namespace Reshape.Filter

structure Reference where
  name : String
  arguments : List Json := []
  deriving Inhabited

namespace Reference

open Template (skipBlanks offsetOf)

def chars (r : Reference) : List Char := r.name.toList ++ Template.argumentChars r.arguments

def text (r : Reference) : String := String.ofList r.chars

def complaint (message : String) (text place : List Char) : String :=
  message ++ s!" at position {offsetOf text place}"

/-- A name and its arguments; blanks may stand between all parts. The message says what is wrong
otherwise. -/
def read (text : List Char) : Except String Reference :=
  match Template.name? (skipBlanks text) with
  | none => .error (complaint "expected filter name" text (skipBlanks text))
  | some (name, afterName) => match Template.arguments afterName with
    | .error fault => .error (complaint fault.cause.message text fault.place)
    | .ok (arguments, rest) => match skipBlanks rest with
      | [] => .ok ⟨String.ofList name, arguments⟩
      | c :: behind =>
        .error (complaint ("unexpected character '" ++ c.toString ++ "'") text (c :: behind))

def parse (text : String) : Except BuildError Reference :=
  (read text.toList).mapError (.invalidReference text)

def agrees (r s : Reference) : Bool :=
  r.name = s.name && Json.itemsAgree r.arguments s.arguments

end Reference

end Reshape.Filter
