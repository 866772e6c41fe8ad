import TypedClient.Text.Ranges

/-!
# Blank characters

`isBlank` holds of the white space of the Unicode Character Database 14.0 together with the four
information separators U+001C to U+001F. `trim` takes blanks off both ends of a text and leaves those
inside; the zero width space is not a blank.
-/

namespace TypedClient.Text

/-- The blank characters. -/
def blankRanges : Ranges :=
  [(0x9, 0xD), (0x1C, 0x20), (0x85, 0x85), (0xA0, 0xA0), (0x1680, 0x1680), (0x2000, 0x200A),
   (0x2028, 0x2029), (0x202F, 0x202F), (0x205F, 0x205F), (0x3000, 0x3000)]

/-- A blank character. -/
def isBlank (c : Char) : Bool :=
  blankRanges.has c.toNat

/-- Whether every character is blank; the empty text counts as blank here. -/
def allBlank (s : String) : Bool :=
  s.toList.all isBlank

/-- Drops from the end the characters that a test picks. -/
def dropEndWhile (p : Char → Bool) (cs : List Char) : List Char :=
  (cs.reverse.dropWhile p).reverse

/-- Drops from both ends the characters that a test picks. -/
def stripChars (p : Char → Bool) (cs : List Char) : List Char :=
  dropEndWhile p (cs.dropWhile p)

/-- A text without the blanks at its ends. -/
def trim (s : String) : String :=
  String.ofList (stripChars isBlank s.toList)

end TypedClient.Text
