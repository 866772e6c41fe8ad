/-!
# Character classes as ranges

A class of characters is written as the closed ranges of its code points, in ascending order. A look-up
stops at the first range that lies beyond the character, so the answer does not depend on what follows.
-/

namespace TypedClient.Text

/-- Closed ranges of code points in ascending order. -/
abbrev Ranges := List (Nat × Nat)

/-- Whether a code point lies in one of the ranges. -/
def Ranges.has : Ranges → Nat → Bool
  | [], _ => false
  | (low, high) :: rest, c =>
    if c < low then false else if c ≤ high then true else Ranges.has rest c

/-- The start of the range that holds a code point. -/
def Ranges.start? : Ranges → Nat → Option Nat
  | [], _ => none
  | (low, high) :: rest, c =>
    if c < low then none else if c ≤ high then some low else Ranges.start? rest c

/-- A code point has a range exactly when it lies in one. -/
theorem Ranges.start?_isSome (r : Ranges) (c : Nat) : (r.start? c).isSome = r.has c := by
  induction r with
  | nil => rfl
  | cons p rest ih =>
    obtain ⟨low, high⟩ := p
    simp only [Ranges.start?, Ranges.has]
    split
    · rfl
    · split
      · rfl
      · exact ih

end TypedClient.Text
