import Reshape.Text.Table

namespace Reshape.Text

/-- The 25 characters of `White_Space`. -/
def isBlank (c : Char) : Bool :=
  c = ' ' || (0x09 ≤ c.toNat && c.toNat ≤ 0x0d) || c.toNat = 0x85 || c.toNat = 0xa0
    || c.toNat = 0x1680 || (0x2000 ≤ c.toNat && c.toNat ≤ 0x200a) || c.toNat = 0x2028
    || c.toNat = 0x2029 || c.toNat = 0x202f || c.toNat = 0x205f || c.toNat = 0x3000

def isAsciiDigit (c : Char) : Bool := '0' ≤ c && c ≤ '9'

def isAsciiUpper (c : Char) : Bool := 'A' ≤ c && c ≤ 'Z'

def isAsciiLower (c : Char) : Bool := 'a' ≤ c && c ≤ 'z'

def isAsciiLetter (c : Char) : Bool := isAsciiUpper c || isAsciiLower c

def isAsciiAlphanumeric (c : Char) : Bool := isAsciiLetter c || isAsciiDigit c

def isAscii (c : Char) : Bool := c.toNat < 128

-- ASCII is written out from here on, so that facts about ASCII text need no table

def isAlphabetic (c : Char) : Bool :=
  if isAscii c then isAsciiLetter c else Table.alphabetic.contains c.toNat

def isUppercase (c : Char) : Bool :=
  if isAscii c then isAsciiUpper c else Table.uppercase.contains c.toNat

def isLowercase (c : Char) : Bool :=
  if isAscii c then isAsciiLower c else Table.lowercase.contains c.toNat

/-- General category `N`: digits, letter numbers and other numbers. -/
def isNumeric (c : Char) : Bool :=
  if isAscii c then isAsciiDigit c else Table.numeric.contains c.toNat

def isAlphanumeric (c : Char) : Bool := isAlphabetic c || isNumeric c

def isCased (c : Char) : Bool :=
  if isAscii c then isAsciiLetter c else Table.cased.contains c.toNat

def isCaseIgnorable (c : Char) : Bool :=
  if isAscii c then c = '\'' || c = '.' || c = ':' || c = '^' || c.toNat = 0x60
  else Table.caseIgnorable.contains c.toNat

/-- A character that quoted text shows as it is. -/
def isPlain (c : Char) : Bool :=
  if isAscii c then 0x20 ≤ c.toNat && c.toNat < 0x7f
  else !Table.extending.contains c.toNat && !Table.unprintable.contains c.toNat

end Reshape.Text
