import JsonShape.Text.Upper

/-!
# Keys and names

How a key of an object is written as a property, and how the names of declarations are derived from
keys.  A name is what is left of a key when all but ASCII letters, digits and underscores is
dropped, outer underscores are cut, an underscore before a small letter turns it into a capital, and
the first letter is capitalised.
-/

namespace JsonShape

namespace Key

/-- First character of an identifier: a letter, `_` or `$`. -/
def isIdentifierStart (c : CodePoint) : Bool := c.isLetter || c = '_' || c = '$'

/-- Any further character of an identifier. -/
def isIdentifierPart (c : CodePoint) : Bool := isIdentifierStart c || c.isDigit

/-- Whether a key may be written without quotes. -/
def isIdentifier : Text → Bool
  | [] => false
  | c :: rest => isIdentifierStart c && rest.all isIdentifierPart

/-- The key as a property is headed by it: bare if it is an identifier, between quotes otherwise. -/
def text (key : Text) : Text := if isIdentifier key then key else "\"" ++ key ++ "\""

end Key

namespace Name

/-- The characters that a name keeps of its key. -/
def isKept (c : CodePoint) : Bool := c.isLetter || c.isDigit || c = '_'

def isUnderscore (c : CodePoint) : Bool := c = '_'

/-- A text without the underscores at its two ends. -/
def strip (t : Text) : Text :=
  ((t.dropWhile isUnderscore).reverse.dropWhile isUnderscore).reverse

/-- Turns `_x` into `X` for each small letter `x`, from left to right. -/
def camel : Text → Text
  | [] => []
  | [c] => [c]
  | c :: d :: rest =>
    if isUnderscore c && d.isLower then d.upperAscii :: camel rest else c :: camel (d :: rest)

/-- A key reduced to a name that is not capitalised yet. -/
def sanitize (key : Text) : Text := camel (strip (key.filter isKept))

/-- A text with its first code point in upper case, which may be several code points. -/
def capitalize : Text → Text
  | [] => []
  | c :: rest => c.upper ++ rest

/-- The name of the declaration for an object under the key. -/
def ofKey (key : Text) : Text := capitalize (sanitize key)

/-- What is appended to a name for the elements of an array. -/
def itemSuffix : Text := "Item"

/-- The name of the declaration for the objects of an array under the key. -/
def ofItems (key : Text) : Text := ofKey key ++ itemSuffix

end Name

end JsonShape
