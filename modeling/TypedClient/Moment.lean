/-!
# Moments

A moment is a day of the calendar, a time of day, or both together. Only settings hold moments. One is
shown with a blank between its day and its time, and kept in a file with the letter `T` there and with
`Z` for universal time; in both the parts have fixed widths. Inside a list or a table it stands as a
literal, which names its kind and lists its parts. An offset may be stated that no clock has; a moment
with one is a value like others, but it can be neither shown nor kept.
-/

namespace TypedClient

/-- A day of the calendar. -/
structure Date where
  year : Nat
  month : Nat
  day : Nat
deriving DecidableEq, Repr, Inhabited

/-- A time of day. -/
structure TimeOfDay where
  hour : Nat
  minute : Nat
  second : Nat
  micros : Nat := 0
deriving DecidableEq, Repr, Inhabited

/-- A day, a time of day, or both; `offset` is how many minutes the clock is ahead of universal time, if
that is known. -/
inductive Moment where
  | date (d : Date)
  | time (t : TimeOfDay)
  | both (d : Date) (t : TimeOfDay) (offset : Option Int)
deriving DecidableEq, Repr, Inhabited

/-- A natural in at least `width` digits. -/
def padded (width : Nat) (n : Nat) : String :=
  let digits := toString n
  String.ofList (List.replicate (width - digits.length) '0') ++ digits

/-- The text of a day. -/
def Date.text (d : Date) : String :=
  padded 4 d.year ++ "-" ++ padded 2 d.month ++ "-" ++ padded 2 d.day

/-- The text of a time of day; microseconds are written when there are any. -/
def TimeOfDay.text (t : TimeOfDay) : String :=
  padded 2 t.hour ++ ":" ++ padded 2 t.minute ++ ":" ++ padded 2 t.second
    ++ (if t.micros = 0 then "" else "." ++ padded 6 t.micros)

/-- Whether a clock can be that many minutes ahead of universal time: less than a day, either way. -/
def isClockOffset (minutes : Int) : Bool := minutes.natAbs < 24 * 60

/-- The text of an offset in minutes. -/
def offsetText (minutes : Int) : String :=
  (if minutes < 0 then "-" else "+") ++ padded 2 (minutes.natAbs / 60) ++ ":"
    ++ padded 2 (minutes.natAbs % 60)

namespace Moment

/-- Whether there is a clock that could show a moment. -/
def hasClock : Moment → Bool
  | .both _ _ (some minutes) => isClockOffset minutes
  | _ => true

/-- The text of a moment as it is shown. -/
def text : Moment → String
  | .date d => d.text
  | .time t => t.text
  | .both d t offset => d.text ++ " " ++ t.text ++ (offset.map offsetText).getD ""

/-- The text of a moment as it is kept in a file. -/
def storedText : Moment → String
  | .date d => d.text
  | .time t => t.text
  | .both d t offset =>
    d.text ++ "T" ++ t.text
      ++ (match offset with
          | none => ""
          | some minutes => if minutes = 0 then "Z" else offsetText minutes)

/-- The parts of a day in a literal. -/
def dateParts (d : Date) : List String := [toString d.year, toString d.month, toString d.day]

/-- The parts of a time of day in a literal: seconds and microseconds as far as there are any. -/
def timeParts (t : TimeOfDay) : List String :=
  let parts := [toString t.hour, toString t.minute]
  if t.micros ≠ 0 then parts ++ [toString t.second, toString t.micros]
  else if t.second ≠ 0 then parts ++ [toString t.second]
  else parts

/-- A kind of moment with its parts in brackets. -/
def partsLiteral (kind : String) (parts : List String) : String :=
  "datetime." ++ kind ++ "(" ++ ", ".intercalate parts ++ ")"

/-- The literal of a moment. -/
def literal : Moment → String
  | .date d => partsLiteral "date" (dateParts d)
  | .time t => partsLiteral "time" (timeParts t)
  | .both d t offset =>
    partsLiteral "datetime"
      (dateParts d ++ timeParts t ++ (offset.map fun minutes => "tzinfo=" ++ offsetText minutes).toList)

end Moment

end TypedClient
