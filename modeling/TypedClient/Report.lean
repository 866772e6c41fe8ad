import TypedClient.Fault

/-!
# What is reported on the way

Generation goes on after a faulty fragment, so besides its result it leaves a list of events: notices
for the log, and the failures that a tracker is told of. A tracker only looks on: the events of a run
do not depend on it, it decides what is kept of the failures and what they add to the log.
-/

namespace TypedClient

/-- Something worth a line in the log. -/
inductive Notice where
  /-- The document could not be had. -/
  | documentNotLoaded (cause : Fault)
  /-- A top-level part of the document was left out. -/
  | partSkipped (name : String) (cause : Fault)
  /-- A parameter name has more than one dot. -/
  | manyDots (literal : String)
  /-- A model bears the name of an enumeration and was given another. -/
  | modelRenamed (name renamed : String)
  /-- Nothing was generated from a schema. -/
  | nothingGenerated (source : String)
deriving DecidableEq, Repr

/-- Something that happened during a run. -/
inductive Event where
  | notice (n : Notice)
  | failure (cause : Fault)
deriving DecidableEq, Repr

/-- The level of a line in the log. -/
inductive Level where
  | warning
  | error
deriving DecidableEq, Repr

/-- A line in the log. -/
structure LogLine where
  level : Level
  text : String
deriving DecidableEq, Repr

/-- Who is told of the failures. -/
inductive Tracker where
  /-- Keeps every failure. -/
  | recording
  /-- Counts the calls and fails at each of them. -/
  | failing
  /-- Writes every failure to the log. -/
  | logging
  /-- Does nothing. -/
  | silent
deriving DecidableEq, Repr

/-- The text of a notice, with faults described by `describe`. -/
def Notice.text (describe : Fault → String) : Notice → String
  | .documentNotLoaded cause => "Не удалось загрузить схему: " ++ describe cause
  | .partSkipped name cause => "Раздел " ++ name ++ " пропущен: " ++ describe cause
  | .manyDots literal => "Имя параметра " ++ literal ++ " содержит больше одной точки"
  | .modelRenamed name renamed =>
    "Модель " ++ name ++ " совпадает с enum, класс переименован в " ++ renamed
  | .nothingGenerated source => "Схема " ++ source ++ " не дала ни одного типа или метода"

/-- The failures among the events, in order. -/
def failures (events : List Event) : List Fault :=
  events.filterMap fun
    | .failure cause => some cause
    | .notice _ => none

/-- What an event adds to the log under a tracker. A tracker that fails is noted and does not stop the
run. -/
def Tracker.line? (describe : Fault → String) : Tracker → Event → Option LogLine
  | _, .notice n => some ⟨.warning, n.text describe⟩
  | .failing, .failure cause => some ⟨.error, "Трекер ошибок упал при обработке " ++ describe cause⟩
  | .logging, .failure cause => some ⟨.warning, "Пропущен фрагмент схемы: " ++ describe cause⟩
  | _, .failure _ => none

/-- The log of a run under a tracker. -/
def Tracker.log (describe : Fault → String) (t : Tracker) (events : List Event) : List LogLine :=
  events.filterMap (t.line? describe)

end TypedClient
