import TypedClient.Naming
import TypedClient.Proofs.Capitals
import Mathlib.Data.List.Chain

/-!
# Upper case in identifiers

The characters that are alphanumeric, that may stand in an identifier and that may begin one make three
classes, and no two of them agree. Upper case keeps apart what they keep apart: a character that has another
upper case may begin an identifier, and so may the first character of its upper case; all others stay as
they are.

As with the table of upper cases, what holds of whole classes is checked on numbers with a bit for every code
point; `Ranges.has_eq_testBit` leads from a class to its number.
-/

namespace TypedClient.Text

/-! ## Classes as numbers -/

/-- The code points in ranges, as a number with a bit for each of them. -/
def Ranges.bits (r : Ranges) : Nat := r.foldr (fun p set => (1 <<< (p.2 + 1 - p.1) - 1) <<< p.1 ||| set) 0

/-- No range begins before the one in front of it. -/
def Ranges.Ascending (r : Ranges) : Prop := r.IsChain fun p q => p.1 ≤ q.1

instance (r : Ranges) : Decidable r.Ascending := inferInstanceAs (Decidable (List.IsChain _ _))

theorem Ranges.testBit_bits (r : Ranges) (c : Nat) :
    r.bits.testBit c = r.any fun p => decide (p.1 ≤ c) && decide (c ≤ p.2) := by
  induction r with
  | nil => simp [bits]
  | cons p rest ih =>
    rw [bits] at ih ⊢
    rw [List.foldr_cons, Nat.testBit_or, ih, List.any_cons, Nat.testBit_shiftLeft, Nat.one_shiftLeft,
      Nat.testBit_two_pow_sub_one]
    congr 1
    by_cases low : p.1 ≤ c
    · simp only [low, decide_true, Bool.true_and, decide_eq_decide]
      omega
    · simp [low]

/-- **A class holds the code points of its number.** -/
theorem Ranges.has_eq_testBit {r : Ranges} (ascending : r.Ascending) (c : Nat) : r.has c = r.bits.testBit c := by
  have : IsTrans (Nat × Nat) fun p q => p.1 ≤ q.1 := ⟨fun _ _ _ => Nat.le_trans⟩
  replace ascending := List.isChain_iff_pairwise.mp ascending
  rw [testBit_bits]
  induction r with
  | nil => rfl
  | cons p rest ih =>
    obtain ⟨later, ascending⟩ := List.pairwise_cons.mp ascending
    rw [has, List.any_cons]
    split
    · next below =>
      -- the ranges that follow begin further up
      have none : rest.any (fun q => decide (q.1 ≤ c) && decide (c ≤ q.2)) = false := by
        refine List.any_eq_false.mpr fun q hq => ?_
        have := later q hq
        simp only [Bool.and_eq_true, decide_eq_true_eq, not_and]
        omega
      simp [none, below]
    · next above =>
      rw [← ih ascending]
      split
      · next within => simp [within, Nat.not_lt.mp above]
      · next beyond => simp [beyond]

/-- The number of a class that is `ascii` below 128 and has ranges from there on. -/
def classBits (ascii : Char → Bool) (r : Ranges) : Nat :=
  bitsOf ((List.range 128).filter fun n => ascii (Char.ofNat n)) ||| r.bits

theorem testBit_classBits {r : Ranges} (ascending : r.Ascending) (above : ∀ p ∈ r, 128 ≤ p.1)
    (ascii : Char → Bool) (c : Char) :
    (classBits ascii r).testBit c.toNat = if c.val < 128 then ascii c else r.has c.toNat := by
  rw [classBits, Nat.testBit_or, testBit_bitsOf, ← Ranges.has_eq_testBit ascending]
  split
  · next low =>
    have below : c.toNat < 128 := UInt32.lt_iff_toNat_lt.mp low
    have none : r.has c.toNat = false := by
      rw [Ranges.has_eq_testBit ascending, Ranges.testBit_bits]
      refine List.any_eq_false.mpr fun p hp => ?_
      have := above p hp
      simp only [Bool.and_eq_true, decide_eq_true_eq, not_and]
      omega
    simp [none, below]
  · next high =>
    have := mt UInt32.lt_iff_toNat_lt.mpr high
    have beyond : c.toNat ∉ (List.range 128).filter fun n => ascii (Char.ofNat n) := fun h =>
      this (List.mem_range.mp (List.mem_filter.mp h).1)
    simp [beyond]

/-- The ranges of the classes ascend, from 128 on. -/
theorem classes_ascending : ∀ r ∈ [alphanumericRanges, digitRanges, identifierStartRanges, identifierPartRanges],
    r.Ascending ∧ ∀ p ∈ r, 128 ≤ p.1 := by decide +kernel

/-- The number of the alphanumeric characters. -/
def alphanumericBits : Nat := classBits Char.isAlphanum alphanumericRanges

/-- The number of the digits. -/
def digitBits : Nat := classBits Char.isDigit digitRanges

/-- The number of the characters that begin an identifier. -/
def startBits : Nat := classBits (fun c => c.isAlpha || c == '_') identifierStartRanges

/-- The number of the characters that may stand in an identifier. -/
def partBits : Nat := classBits (fun c => c.isAlphanum || c == '_') identifierPartRanges

theorem isAlphanumeric_eq (c : Char) : isAlphanumeric c = alphanumericBits.testBit c.toNat :=
  have ⟨ascending, above⟩ := classes_ascending alphanumericRanges (by simp)
  (testBit_classBits ascending above _ c).symm

theorem isDigit_eq (c : Char) : isDigit c = digitBits.testBit c.toNat :=
  have ⟨ascending, above⟩ := classes_ascending digitRanges (by simp)
  (testBit_classBits ascending above _ c).symm

theorem isIdentifierStart_eq (c : Char) : isIdentifierStart c = startBits.testBit c.toNat :=
  have ⟨ascending, above⟩ := classes_ascending identifierStartRanges (by simp)
  (testBit_classBits ascending above (fun c => c.isAlpha || c == '_') c).symm

theorem isIdentifierPart_eq (c : Char) : isIdentifierPart c = partBits.testBit c.toNat :=
  have ⟨ascending, above⟩ := classes_ascending identifierPartRanges (by simp)
  (testBit_classBits ascending above (fun c => c.isAlphanum || c == '_') c).symm

theorem isBlank_eq (c : Char) : isBlank c = blankRanges.bits.testBit c.toNat :=
  Ranges.has_eq_testBit (by decide) _

/-- What is in one set and in another is in a third, where the numbers say so. -/
theorem testBit_of_and_eq {a b c n : Nat} (within : a &&& b &&& c = a &&& b) (ha : a.testBit n = true)
    (hb : b.testBit n = true) : c.testBit n = true := by
  have := congrArg (·.testBit n) within
  simpa [Nat.testBit_and, ha, hb] using this

/-! ## How the classes lie -/

variable {c : Char}

/-- What begins an identifier may stand in one. -/
theorem isIdentifierPart_of_start (start : isIdentifierStart c = true) : isIdentifierPart c = true := by
  have within : startBits &&& startBits &&& partBits = startBits &&& startBits := by decide +kernel
  rw [isIdentifierStart_eq] at start
  rw [isIdentifierPart_eq]
  exact testBit_of_and_eq within start start

/-- No digit begins an identifier. -/
theorem isDigit_of_start (start : isIdentifierStart c = true) : isDigit c = false := by
  have apart : startBits &&& digitBits = 0 := by decide +kernel
  rw [isIdentifierStart_eq] at start
  rw [isDigit_eq]
  simpa [Nat.testBit_and, start] using congrArg (·.testBit c.toNat) apart

/-- No blank is alphanumeric. -/
theorem isAlphanumeric_of_blank (blank : isBlank c = true) : isAlphanumeric c = false := by
  have apart : blankRanges.bits &&& alphanumericBits = 0 := by decide +kernel
  rw [isBlank_eq] at blank
  rw [isAlphanumeric_eq]
  simpa [Nat.testBit_and, blank] using congrArg (·.testBit c.toNat) apart

/-! ## Upper case -/

/-- The low line and the small ASCII letters, the characters of reserved words that no upper case has. -/
def isLow (c : Char) : Bool := c == '_' || c.isLower

/-- The number of the low characters. -/
def lowBits : Nat := classBits isLow []

theorem isLow_of_high (high : ¬ c.val < 128) : isLow c = false := by
  refine Bool.eq_false_iff.mpr fun low => ?_
  rcases Bool.or_eq_true_iff.mp low with line | small
  · exact high (beq_iff_eq.mp line ▸ by decide)
  · exact high (ascii_of_isLower small)

theorem isLow_eq (c : Char) : isLow c = lowBits.testBit c.toNat := by
  rw [lowBits, testBit_classBits (by decide) (by decide)]
  split
  · rfl
  · next high => rw [isLow_of_high high, Ranges.has]

/-- The upper case of a character stands in identifiers, and begins them, where the character does. -/
structure Raises (c : Char) (raised : List Char) : Prop where
  begins : ∃ first rest, raised = first :: rest ∧ isIdentifierStart first = isIdentifierStart c ∧
    isDigit first = isDigit c
  parts : (∀ d ∈ raised, isIdentifierPart d = true) ↔ isIdentifierPart c = true
  high : ∀ d ∈ raised, isLow d = false

theorem raises_of_start {first : Char} {rest : List Char} (start : isIdentifierStart c = true)
    (start' : isIdentifierStart first = true)
    (others : ∀ d ∈ first :: rest, isIdentifierPart d = true ∧ isLow d = false) : Raises c (first :: rest) where
  begins := ⟨first, rest, rfl, start'.trans start.symm,
    (isDigit_of_start start').trans (isDigit_of_start start).symm⟩
  parts := ⟨fun _ => isIdentifierPart_of_start start, fun _ d hd => (others d hd).1⟩
  high := fun d hd => (others d hd).2

theorem raises_self (high : isLow c = false) : Raises c [c] := by
  refine ⟨⟨c, [], rfl, rfl, rfl⟩, ?_, ?_⟩ <;> simp [high]

/-- A letter that a run gives an upper case begins identifiers, and so does its upper case. -/
theorem start_of_run : ∀ r ∈ caseRuns, ∀ n ∈ r.points, alphanumericBits.testBit n = true →
    startBits.testBit n = true ∧ startBits.testBit (r.raise n) = true ∧ lowBits.testBit (r.raise n) = false := by
  decide +kernel

/-- A character whose upper case is more than one begins identifiers, and so does its upper case. -/
theorem start_of_expansion : ∀ e ∈ caseExpansions, startBits.testBit e.1 = true ∧
    (∀ n ∈ e.2.head?, startBits.testBit n = true) ∧
    ∀ n ∈ e.2, n.isValidChar ∧ partBits.testBit n = true ∧ lowBits.testBit n = false := by
  decide +kernel

theorem raises_ascii : ∀ n ∈ List.range 128, isAlphanumeric (Char.ofNat n) = true →
    let raised := (Char.ofNat n).toUpper
    isIdentifierStart raised = isIdentifierStart (Char.ofNat n) ∧ isDigit raised = isDigit (Char.ofNat n) ∧
      isIdentifierPart raised = isIdentifierPart (Char.ofNat n) ∧ isLow raised = false := by
  decide +kernel

/-- **Upper case keeps identifiers.** The upper case of an alphanumeric character is not empty, and may stand in
identifiers and begin them exactly when the character may. -/
theorem raises_upperChar (letter : isAlphanumeric c = true) : Raises c (upperChar c) := by
  by_cases low : c.val < 128
  · have below : c.toNat ∈ List.range 128 := List.mem_range.mpr (UInt32.lt_iff_toNat_lt.mp low)
    have raised := raises_ascii _ below
    simp only [Char.ofNat_toNat] at raised
    obtain ⟨start, digit, part, high⟩ := raised letter
    rw [upperChar_of_ascii low]
    refine ⟨⟨_, [], rfl, start, digit⟩, ?_, ?_⟩ <;> simp [part, high]
  · cases expanded : caseExpansions.lookup c.toNat with
    | some points =>
      obtain ⟨before, after, split, _⟩ := List.lookup_eq_some_iff.mp expanded
      have member : (c.toNat, points) ∈ caseExpansions := split ▸ List.mem_append_right _ List.mem_cons_self
      obtain ⟨start, start', each⟩ := start_of_expansion _ member
      obtain ⟨first, rest, rfl, _⟩ := capital_of_expansion expanded
      have upper : upperChar c = (first :: rest).map Char.ofNat := by simp [upperChar, low, expanded]
      have validFirst := (each first List.mem_cons_self).1
      rw [upper]
      refine raises_of_start (isIdentifierStart_eq c ▸ start) ?_ fun d hd => ?_
      · rw [isIdentifierStart_eq, toNat_ofNat validFirst]
        exact start' first rfl
      · rw [← List.map_cons] at hd
        obtain ⟨n, hn, rfl⟩ := List.mem_map.mp hd
        obtain ⟨valid, part, high⟩ := each n hn
        rw [isIdentifierPart_eq, isLow_eq, toNat_ofNat valid]
        exact ⟨part, high⟩
    | none =>
      cases shifted : shiftIn caseRuns c.toNat with
      | some n =>
        have upper : upperChar c = [Char.ofNat n] := by simp [upperChar, low, expanded, shifted]
        have valid : n.isValidChar := by
          have all := List.all_eq_true.mp capitalPoints_valid n (capital_of_shift shifted)
          exact decide_eq_true_eq.mp (Bool.and_eq_true_iff.mp all).1
        obtain ⟨r, member, within, rfl⟩ := exists_run_of_shiftIn shifted
        rw [isAlphanumeric_eq] at letter
        obtain ⟨start, start', high⟩ := start_of_run r member _ within letter
        rw [← toNat_ofNat valid, ← isIdentifierStart_eq] at start'
        rw [upper]
        refine raises_of_start (isIdentifierStart_eq c ▸ start) start' fun d hd => ?_
        rw [List.mem_singleton.mp hd, isLow_eq, toNat_ofNat valid]
        exact ⟨isIdentifierPart_of_start start', high⟩
      | none =>
        have same : upperChar c = [c] := by simp [upperChar, low, expanded, shifted]
        rw [same]
        exact raises_self (isLow_of_high low)

end TypedClient.Text
