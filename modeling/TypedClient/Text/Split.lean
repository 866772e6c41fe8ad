/-!
# Splitting and replacing

Texts as lists of characters are taken apart at a separator: `split` at every occurrence of a character,
`splitFirst` at the first few of them, `splitSeq` at the occurrences of a sequence, found from the left
and without overlap. `replaceSeq` joins the parts with something else. A split has one part more than
there are separators, and joining the parts with the separator gives the text back.
-/

namespace TypedClient.Text

/-- Puts a character in front of the first of some parts. -/
def consFirst (c : Char) : List (List Char) → List (List Char)
  | [] => [[c]]
  | part :: parts => (c :: part) :: parts

/-- The parts of a text between the occurrences of a character. -/
def split (sep : Char) : List Char → List (List Char)
  | [] => [[]]
  | c :: cs => if c = sep then [] :: split sep cs else consFirst c (split sep cs)

/-- The parts of a text between the first `count` occurrences of a character. -/
def splitFirst (sep : Char) : Nat → List Char → List (List Char)
  | 0, cs => [cs]
  | _ + 1, [] => [[]]
  | count + 1, c :: cs =>
    if c = sep then [] :: splitFirst sep count cs else consFirst c (splitFirst sep (count + 1) cs)

/-- The parts of a text between the occurrences of a sequence; `skip` characters belong to an occurrence
that has begun. -/
def splitSeqFrom (sep : List Char) : Nat → List Char → List (List Char)
  | _, [] => [[]]
  | skip + 1, _ :: cs => splitSeqFrom sep skip cs
  | 0, c :: cs =>
    if sep.isPrefixOf (c :: cs) then [] :: splitSeqFrom sep (sep.length - 1) cs
    else consFirst c (splitSeqFrom sep 0 cs)

/-- The parts of a text between the occurrences of a sequence that is not empty. -/
def splitSeq (sep cs : List Char) : List (List Char) := splitSeqFrom sep 0 cs

/-- A text with every occurrence of a sequence replaced. -/
def replaceSeq (old new cs : List Char) : List Char :=
  new.intercalate (splitSeq old cs)

/-- Whether a sequence occurs in a text. -/
def occurs (part : List Char) : List Char → Bool
  | [] => part.isEmpty
  | c :: cs => part.isPrefixOf (c :: cs) || occurs part cs

/-- No split is without parts. -/
theorem split_ne_nil (sep : Char) (cs : List Char) : split sep cs ≠ [] := by
  cases cs with
  | nil => simp [split]
  | cons c cs =>
    simp only [split]
    split
    · simp
    · cases Text.split sep cs <;> simp [consFirst]

/-- The parts, joined with the separator, are the text. -/
theorem intercalate_split (sep : Char) (cs : List Char) : [sep].intercalate (split sep cs) = cs := by
  induction cs with
  | nil => simp [split, List.intercalate]
  | cons c cs ih =>
    simp only [split]
    split
    · next h =>
      subst h
      have := split_ne_nil c cs
      cases hs : Text.split c cs with
      | nil => exact absurd hs this
      | cons part parts =>
        rw [hs] at ih
        simpa [List.intercalate, List.intersperse] using ih
    · cases hs : Text.split sep cs with
      | nil => exact absurd hs (split_ne_nil sep cs)
      | cons part parts =>
        rw [hs] at ih
        cases parts with
        | nil => simpa [consFirst, List.intercalate, List.intersperse] using ih
        | cons p ps => simpa [consFirst, List.intercalate, List.intersperse] using ih

end TypedClient.Text
