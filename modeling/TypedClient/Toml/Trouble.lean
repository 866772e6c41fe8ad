import TypedClient.Fault

/-!
# Trouble with a settings text

A text that is not in the settings format is malformed: it breaks a rule, which a message states, and
it does so at a position. Other troubles are faults of their own, met where a rule is applied to a table
or a text that cannot take it.
-/

namespace TypedClient.Toml

/-- Why a text cannot be read. -/
inductive Trouble where
  /-- The text breaks a rule of the format at a position. -/
  | malformed (message : String) (position : Nat)
  /-- Something else went wrong. -/
  | fault (cause : Fault)
deriving DecidableEq, Repr

/-- A rule broken somewhere in a line. The line's reader adds the position. -/
def broken {α : Type} (message : String) : Except Trouble α := .error (.malformed message 0)

/-- A fault. -/
def fails {α : Type} (cause : Fault) : Except Trouble α := .error (.fault cause)

/-- What a line's reader says, at the position of the line. -/
def atPosition {α : Type} (position : Nat) (r : Except Trouble α) : Except Trouble α :=
  match r with
  | .error (.malformed message _) => .error (.malformed message position)
  | r => r

/-- A message with the line and the column of its position in a text; both count from one. -/
def located (text : List Char) (message : String) (position : Nat) : String :=
  let before := text.take position
  let line := before.count '\n' + 1
  let column := (before.reverse.takeWhile (· != '\n')).length + 1
  message ++ " (line " ++ toString line ++ " column " ++ toString column ++ " char "
    ++ toString position ++ ")"

end TypedClient.Toml
