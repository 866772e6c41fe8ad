import TypedClient.Moment
import TypedClient.Number.Binary64
import TypedClient.Number.IntegerText
import TypedClient.Toml.Trouble

/-!
# Dates and times

A settings text may hold dates, times of day and both together, with an offset from universal time.
They are recognised by their places: the parts of a date and time are integers at fixed positions, with
any character between them. What is recognised but does not exist, such as the thirtieth of February, is
no date. Beyond six digits the fraction of a second is computed in floating-point numbers, so one that is
beyond all of these cannot be read.
-/

namespace TypedClient.Toml

/-- The characters of a text from one position up to another. -/
def between (cs : List Char) (start stop : Nat) : List Char := (cs.take stop).drop start

/-- The integer at a place of a text. -/
def integerAt? (cs : List Char) (start stop : Nat) : Option Int :=
  Number.readInteger? (String.ofList (between cs start stop))

/-- The number of days of a month. -/
def daysOf (year month : Nat) : Nat :=
  if month = 2 then
    if year % 4 = 0 ∧ (year % 100 ≠ 0 ∨ year % 400 = 0) then 29 else 28
  else if month = 4 ∨ month = 6 ∨ month = 9 ∨ month = 11 then 30
  else 31

/-- A day that exists. -/
def date? (year month day : Int) : Option Date :=
  if 1 ≤ year ∧ year ≤ 9999 ∧ 1 ≤ month ∧ month ≤ 12 ∧ 1 ≤ day
      ∧ day ≤ daysOf year.toNat month.toNat then
    some ⟨year.toNat, month.toNat, day.toNat⟩
  else none

/-- A time of day that exists. -/
def timeOfDay? (hour minute second micros : Int) : Option TimeOfDay :=
  if 0 ≤ hour ∧ hour < 24 ∧ 0 ≤ minute ∧ minute < 60 ∧ 0 ≤ second ∧ second < 60
      ∧ 0 ≤ micros ∧ micros < 1000000 then
    some ⟨hour.toNat, minute.toNat, second.toNat, micros.toNat⟩
  else none

/-- An offset from universal time in minutes: a sign, hours and minutes. -/
def offset? (cs : List Char) : Option Int := do
  if cs = ['Z'] then return 0
  let hours ← integerAt? cs 1 3
  let minutes ← integerAt? cs 4 6
  let total := hours * 60 + minutes
  return if cs.head? = some '-' then -total else total

/-- The microseconds that the digits of a fraction stand for. -/
def micros (digits : List Char) : Except Trouble (Option Int) :=
  match Number.readInteger? (String.ofList digits) with
  | none => .ok none
  | some n =>
    if digits.length ≤ 6 then .ok (some (n * (pow10 (6 - digits.length) : Int)))
    else
      match Binary64.ofFraction (n < 0) n.natAbs 1 with
      | .finite negative m e =>
        .ok ((Binary64.finite negative m e).product (.ofDecimal false 1 (6 - digits.length))).truncate?
      | _ => fails .tooLarge

/-- The fraction of a second and the offset after it. -/
def splitFraction (cs : List Char) : List Char × Option (List Char) :=
  if cs.getLast?.any (fun c => c == 'z' || c == 'Z') then (cs.dropLast, some ['Z'])
  else if cs.contains '+' then (cs.takeWhile (· != '+'), some (cs.dropWhile (· != '+')))
  else if cs.contains '-' then (cs.takeWhile (· != '-'), some (cs.dropWhile (· != '-')))
  else (cs, none)

/-- What follows the seconds: microseconds and an offset. What cannot be read counts as nothing. -/
def afterSeconds (cs : List Char) : Except Trouble (Int × Option Int) :=
  match cs with
  | [] => .ok (0, none)
  | '.' :: rest => do
    let (digits, stated) := splitFraction rest
    let offset := stated.bind offset?
    if stated.isSome && offset.isNone then return (0, none)
    match ← micros digits with
    | some n => return (n, offset)
    | none => return (0, none)
  | cs => .ok (0, offset? cs)

/-- The day at the front of a text. -/
def dateAt? (cs : List Char) : Option Date := do
  date? (← integerAt? cs 0 4) (← integerAt? cs 5 7) (← integerAt? cs 8 10)

/-- A day and a time of day, as far as they exist. -/
def bothAt? (cs : List Char) (micros : Int) (offset : Option Int) : Option Moment := do
  let day ← dateAt? cs
  let time ← timeOfDay? (← integerAt? cs 11 13) (← integerAt? cs 14 16) (← integerAt? cs 17 19) micros
  return .both day time offset

/-- A day, or a day and a time of day, if a text is one. There is a hyphen behind its first character. -/
def readDate (cs : List Char) : Except Trouble (Option Moment) := do
  let (micros, offset) ← afterSeconds (cs.drop 19)
  if !(cs.drop 1).contains '-' then return none
  else if cs.length = 10 then return (dateAt? cs).map .date
  else return bothAt? cs micros offset

/-- The value of two ASCII digits. -/
def twoDigits? : List Char → Option Nat
  | [a, b] =>
    if a.isDigit && b.isDigit then some ((a.toNat - 48) * 10 + (b.toNat - 48)) else none
  | _ => none

/-- The hours, minutes, seconds and the fraction of a text that begins like a time of day. -/
def timeParts? (cs : List Char) : Option (Nat × Nat × Nat × Nat) := do
  let hour ← twoDigits? (between cs 0 2)
  let minute ← twoDigits? (between cs 3 5)
  let second ← twoDigits? (between cs 6 8)
  if between cs 2 3 = [':'] ∧ between cs 5 6 = [':'] then
    let fraction := ((cs.drop 9).takeWhile Char.isDigit).take 6
    let fraction := if between cs 8 9 = ['.'] ∧ 3 ≤ fraction.length then fraction else []
    return (hour, minute, second, fraction.foldl (fun n d => 10 * n + (d.toNat - 48)) 0)
  else none

end TypedClient.Toml
