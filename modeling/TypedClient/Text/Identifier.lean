import TypedClient.Text.IdentifierPart
import TypedClient.Text.IdentifierStart

/-!
# Identifiers

An identifier of the generated language begins with a start character and goes on with part characters.
A name that a definition, a class or an argument may bear is an identifier that is not reserved.
-/

namespace TypedClient.Text

/-- The reserved words of the generated language. -/
def reservedWords : List String :=
  ["False", "None", "True", "and", "as", "assert", "async", "await", "break", "class", "continue",
   "def", "del", "elif", "else", "except", "finally", "for", "from", "global", "if", "import", "in",
   "is", "lambda", "nonlocal", "not", "or", "pass", "raise", "return", "try", "while", "with", "yield"]

/-- A reserved word. -/
def isReserved (s : String) : Bool :=
  reservedWords.contains s

/-- The shape of an identifier: a start character, then part characters. -/
def isIdentifierShape : List Char → Bool
  | [] => false
  | c :: cs => isIdentifierStart c && cs.all isIdentifierPart

/-- An identifier that is not reserved, so one that can be used as a name unchanged. -/
def isValidName (s : String) : Bool :=
  isIdentifierShape s.toList && !isReserved s

/-- A valid name is not empty. -/
theorem ne_empty_of_isValidName {s : String} (h : isValidName s = true) : s ≠ "" := by
  rintro rfl
  simp [isValidName, isIdentifierShape] at h

end TypedClient.Text
