import TypedClient.Text.Alphanumeric
import TypedClient.Text.Blank
import TypedClient.Text.Digit
import TypedClient.Text.Identifier
import TypedClient.Text.Split
import TypedClient.Text.Uppercase

/-!
# Names in the generated package

A schema may call its definitions, fields and parameters anything; the generated package needs names.
Each kind of name has a rule of its own: `className` keeps a valid name and otherwise joins capitalised
ASCII words, `argumentName` replaces what is not alphanumeric by low lines and tidies them up,
`memberName` does the same in upper case for the members of an enumeration, `modelName` keeps a valid
name and otherwise puts `Model` in front. `freshName` resolves clashes: it takes the first of a sequence
of candidates that is still free.
-/

namespace TypedClient

open Text

/-- Upper case for the first character, nothing changed in the others. -/
def capitalize (s : String) : String :=
  match s.toList with
  | [] => ""
  | c :: cs => String.ofList (upperChar c ++ cs)

/-- The segments of a dotted name. -/
def dottedSegments (s : String) : List String :=
  (split '.' s.toList).map String.ofList

/-- A dotted name in one word: every segment after the first is capitalised. -/
def flattenDots (s : String) : String :=
  match dottedSegments s with
  | [] => ""
  | first :: rest => String.join (first :: rest.map capitalize)

/-- Whether a name has more than one dot. -/
def hasManyDots (s : String) : Bool :=
  2 < (dottedSegments s).length

/-- A name as it is when it is valid, otherwise `Model` and the name capitalised. -/
def modelName (s : String) : String :=
  if isValidName s then s else "Model" ++ capitalize s

/-- An ASCII letter or digit, or the low line. -/
def isAsciiWordChar (c : Char) : Bool :=
  c.isAlphanum || c == '_'

/-- The capitalised ASCII words of a text, joined. -/
def joinedWords (s : String) : String :=
  let words := split '_' (s.toList.map fun c => if isAsciiWordChar c then c else '_')
  String.join ((words.filter (!·.isEmpty)).map (capitalize ∘ String.ofList))

/-- Whether a text begins with a digit. -/
def startsWithDigit (s : String) : Bool :=
  match s.toList with
  | [] => false
  | c :: _ => isDigit c

/-- The class name for a name: the name itself when it is valid, otherwise its joined words with
`Model` before a leading digit and after what is still not valid. -/
def className (s : String) : String :=
  if isValidName s then s
  else
    let joined := joinedWords s
    let named := if startsWithDigit joined then "Model" ++ joined else joined
    if isValidName named then named else named ++ "Model"

/-- One pass over a text that writes each pair of low lines as one. -/
def halveLowLines : List Char → List Char
  | '_' :: '_' :: rest => '_' :: halveLowLines rest
  | c :: rest => c :: halveLowLines rest
  | [] => []

/-- Whether two low lines stand side by side. -/
def hasDoubleLowLine : List Char → Bool
  | '_' :: '_' :: _ => true
  | _ :: rest => hasDoubleLowLine rest
  | [] => false

/-- A pass writes no more than it reads. -/
theorem length_halveLowLines_le (cs : List Char) : (halveLowLines cs).length ≤ cs.length := by
  fun_induction halveLowLines cs with
  | case1 rest ih => simp only [List.length_cons]; omega
  | case2 c rest _ ih => simp only [List.length_cons]; omega
  | case3 => simp

/-- A pass over a text with a pair of low lines makes it shorter. -/
theorem length_halveLowLines_lt {cs : List Char} (h : hasDoubleLowLine cs = true) :
    (halveLowLines cs).length < cs.length := by
  fun_induction halveLowLines cs with
  | case1 rest ih =>
    have := length_halveLowLines_le rest
    simp only [List.length_cons]
    omega
  | case2 c rest hne ih =>
    have : hasDoubleLowLine rest = true := by
      unfold hasDoubleLowLine at h
      split at h
      · next r heq => cases heq; exact absurd rfl (hne r · rfl)
      · next d r _ heq => cases heq; exact h
      · next heq => cases heq
    have := ih this
    simp only [List.length_cons]
    omega
  | case3 => simp [hasDoubleLowLine] at h

/-- Passes until no two low lines stand side by side. -/
def collapseLowLines (cs : List Char) : List Char :=
  if _h : hasDoubleLowLine cs = true then collapseLowLines (halveLowLines cs) else cs
termination_by cs.length
decreasing_by exact length_halveLowLines_lt ‹_›

/-- Runs of low lines made one, and none left at the ends. -/
def tidyLowLines (cs : List Char) : List Char :=
  stripChars (· == '_') (collapseLowLines cs)

/-- The name of a field, a parameter or a method. -/
def argumentName (s : String) : String :=
  let kept := s.toList.map fun c => if isAlphanumeric c || c == '_' then c else '_'
  let tidy := String.ofList (tidyLowLines kept)
  let named := if startsWithDigit tidy then "param_" ++ tidy else tidy
  let named := if named = "" then "param" else named
  if isReserved named then named ++ "_field" else named

/-- The name of a member of an enumeration. -/
def memberName (s : String) : String :=
  if s = "" then "EMPTY"
  else if allBlank s then "SPACE"
  else
    let kept := s.toList.flatMap fun c => if isAlphanumeric c then upperChar c else ['_']
    let tidy := String.ofList (tidyLowLines kept)
    if startsWithDigit tidy then "VALUE_" ++ tidy
    else if tidy = "" then "VALUE" else tidy

/-- The first of the candidates that is not taken. Among distinct candidates, one more than there are
names taken is enough to find one. -/
def freshName (taken : List String) (candidate : Nat → String) : String :=
  (((List.range (taken.length + 1)).map candidate).find? (!taken.contains ·)).getD (candidate 0)

/-- The candidates `name`, `name_2`, `name_3` and so on. -/
def numbered (name : String) : Nat → String
  | 0 => name
  | n + 1 => name ++ "_" ++ toString (n + 2)

/-- The candidates `name`, `name_`, `name__` and so on. -/
def underlined (name : String) (n : Nat) : String :=
  name ++ String.ofList (List.replicate n '_')

end TypedClient
