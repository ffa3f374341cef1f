import Reshape.Text.Basic

namespace Reshape.Words

/-- A new word starts at an upper-case letter behind a lower-case letter or a digit. -/
def isBoundary (before c : Char) : Bool :=
  Text.isUppercase c && (Text.isLowercase before || Text.isNumeric before)

/-- Puts a finished word, kept in reverse, in front of the others. -/
def close (word : List Char) (words : List (List Char)) : List (List Char) :=
  if word.isEmpty then words else word.reverse :: words

/-- The words of a text, given the word begun before it, in reverse. -/
def splitAfter (word : List Char) : List Char → List (List Char)
  | [] => close word []
  | c :: rest =>
    if !Text.isAlphanumeric c then close word (splitAfter [] rest)
    else match word with
      | [] => splitAfter [c] rest
      | before :: _ =>
        if isBoundary before c then close word (splitAfter [c] rest)
        else splitAfter (c :: word) rest

/-- The words of a text: runs of letters and numbers, divided at boundaries too. -/
def split (text : List Char) : List (List Char) := splitAfter [] text

def upperFirst : List Char → List Char
  | [] => []
  | c :: rest => Text.upperChar c ++ rest

def lowerFirst : List Char → List Char
  | [] => []
  | c :: rest => Text.lowerChar c ++ rest

def joinLower (mark : Char) (text : List Char) : List Char :=
  Text.joinWith [mark] ((split text).map Text.lower)

/-- `full_name` -/
def snake (text : List Char) : List Char := joinLower '_' text

/-- `full-name` -/
def kebab (text : List Char) : List Char := joinLower '-' text

/-- `fullName` -/
def camel (text : List Char) : List Char :=
  match (split text).map Text.lower with
  | [] => []
  | first :: others => first ++ others.flatMap upperFirst

/-- Upper case for the first character of every run without blanks. -/
def titleFrom (atStart : Bool) : List Char → List Char
  | [] => []
  | c :: rest =>
    if Text.isBlank c then c :: titleFrom true rest
    else if atStart then Text.upperChar c ++ titleFrom false rest
    else c :: titleFrom false rest

def title (text : List Char) : List Char := titleFrom true text

def slugWord (word : List Char) : List Char :=
  Text.asciiLower (word.filter Text.isAsciiAlphanumeric)

/-- Words of lower-case ASCII letters and digits with hyphens between them. -/
def slug (text : List Char) : List Char :=
  Text.joinWith ['-'] (((split text).map slugWord).filter (!·.isEmpty))

end Reshape.Words
