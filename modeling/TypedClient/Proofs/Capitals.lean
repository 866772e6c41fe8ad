import TypedClient.Naming

/-!
# Capitals

The first character of an upper case is a capital: it is its own upper case. So a text that is capitalised is left
as it is when it is capitalised again, in every script.

The table of upper cases has a few thousand code points on either side. That none of them stands on both sides is
checked on two numbers, one for each side, with a bit for every code point.
-/

namespace TypedClient

namespace Text

/-! ## The code points of the table -/

/-- The code points that a run gives an upper case. -/
def CaseRun.points (r : CaseRun) : List Nat :=
  (List.range ((r.high - r.low) / r.step + 1)).map fun k => r.low + k * r.step

/-- The upper case of a code point in a run. -/
def CaseRun.raise (r : CaseRun) (c : Nat) : Nat := (c + r.shift).toNat

/-- The code points from 128 on that have another upper case. -/
def smallPoints : List Nat := caseRuns.flatMap (·.points) ++ caseExpansions.map Prod.fst

/-- The code points that these upper cases begin with. -/
def capitalPoints : List Nat :=
  caseRuns.flatMap (fun r => r.points.map r.raise) ++ caseExpansions.map fun e => e.2.headD 0

/-- A set of code points as a number with a bit for each of them. -/
def bitsOf (points : List Nat) : Nat := points.foldr (fun c set => 1 <<< c ||| set) 0

theorem testBit_bitsOf (points : List Nat) (c : Nat) : (bitsOf points).testBit c = decide (c ∈ points) := by
  induction points with
  | nil => simp [bitsOf]
  | cons d rest ih =>
    rw [bitsOf] at ih ⊢
    rw [List.foldr_cons, Nat.testBit_or, ih, Nat.one_shiftLeft, Nat.testBit_two_pow]
    by_cases h : d = c
    · simp [h]
    · simp [h, Ne.symm h]

theorem bitsOf_disjoint : bitsOf smallPoints &&& bitsOf capitalPoints = 0 := by decide +kernel

/-- No code point that an upper case begins with has another upper case. -/
theorem not_small_of_capital {c : Nat} (capital : c ∈ capitalPoints) : c ∉ smallPoints := by
  intro small
  have both : (bitsOf smallPoints &&& bitsOf capitalPoints).testBit c = true := by
    rw [Nat.testBit_and, testBit_bitsOf, testBit_bitsOf]
    simp [small, capital]
  rw [bitsOf_disjoint, Nat.zero_testBit] at both
  cases both

/-- The code points that upper cases begin with are characters; those below 128 are in upper case. -/
theorem capitalPoints_valid : capitalPoints.all (fun c => decide (c.isValidChar) &&
    (decide (128 ≤ c) || (Char.ofNat c).toUpper == Char.ofNat c)) = true := by decide +kernel

/-- A code point that is given an upper case lies in one of the runs. -/
theorem exists_run_of_shiftIn {runs : List CaseRun} {c n : Nat} (h : shiftIn runs c = some n) :
    ∃ r ∈ runs, c ∈ r.points ∧ n = r.raise c := by
  induction runs with
  | nil => cases h
  | cons r rest ih =>
    rw [shiftIn] at h
    split at h
    · cases h
    · next low =>
      split at h
      · next high =>
        split at h
        · next step =>
          cases h
          refine ⟨r, List.mem_cons_self, List.mem_map.mpr ⟨(c - r.low) / r.step, ?_, ?_⟩, rfl⟩
          · have within : (c - r.low) / r.step ≤ (r.high - r.low) / r.step := Nat.div_le_div_right (by omega)
            exact List.mem_range.mpr (by omega)
          · have exact : (c - r.low) / r.step * r.step = c - r.low := Nat.div_mul_cancel (Nat.dvd_of_mod_eq_zero step)
            omega
        · cases h
      · obtain ⟨s, member, found⟩ := ih h
        exact ⟨s, List.mem_cons_of_mem r member, found⟩

/-- What has an upper case of several characters is in the table with it, and there is a first one. -/
theorem capital_of_expansion {c : Nat} {cs : List Nat} (h : caseExpansions.lookup c = some cs) :
    ∃ first rest, cs = first :: rest ∧ first ∈ capitalPoints := by
  have inhabited : ∀ e ∈ caseExpansions, e.2 ≠ [] := by decide
  obtain ⟨before, after, split, _⟩ := List.lookup_eq_some_iff.mp h
  have member : (c, cs) ∈ caseExpansions := split ▸ List.mem_append_right _ List.mem_cons_self
  obtain ⟨first, rest, rfl⟩ := List.exists_cons_of_ne_nil (inhabited _ member)
  refine ⟨first, rest, rfl, List.mem_append_right _ ?_⟩
  exact List.mem_map.mpr ⟨_, member, rfl⟩

theorem capital_of_shift {c n : Nat} (h : shiftIn caseRuns c = some n) : n ∈ capitalPoints := by
  obtain ⟨r, member, within, rfl⟩ := exists_run_of_shiftIn h
  refine List.mem_append_left _ (List.mem_flatMap.mpr ⟨r, member, ?_⟩)
  exact List.mem_map_of_mem within

theorem toNat_ofNat {n : Nat} (valid : n.isValidChar) : (Char.ofNat n).toNat = n := by
  rw [Char.ofNat, dif_pos valid]
  rfl

/-- A code point that an upper case begins with is its own upper case. -/
theorem upperChar_of_capital {n : Nat} (capital : n ∈ capitalPoints) : upperChar (Char.ofNat n) = [Char.ofNat n] := by
  have valid := List.all_eq_true.mp capitalPoints_valid n capital
  simp only [Bool.and_eq_true, Bool.or_eq_true, decide_eq_true_eq, beq_iff_eq] at valid
  obtain ⟨isChar, ascii⟩ := valid
  have toNat := toNat_ofNat isChar
  obtain ⟨noRun, noKey⟩ := not_or.mp (mt List.mem_append.mpr (not_small_of_capital capital))
  rw [upperChar]
  split
  · next low =>
    have below : n < 128 := toNat ▸ UInt32.lt_iff_toNat_lt.mp low
    rw [ascii.resolve_left (by omega)]
  · have noExpansion : caseExpansions.lookup n = none := by
      refine List.lookup_eq_none_iff.mpr fun e member => ?_
      exact bne_iff_ne.mpr fun same => noKey (List.mem_map.mpr ⟨e, member, same.symm⟩)
    have noShift : shiftIn caseRuns n = none := by
      cases shifted : shiftIn caseRuns n with
      | none => rfl
      | some =>
        obtain ⟨r, member, within, _⟩ := exists_run_of_shiftIn shifted
        exact absurd (List.mem_flatMap.mpr ⟨r, member, within⟩) noRun
    rw [toNat, noExpansion, noShift]
    rfl

theorem toUpper_ascii : (List.range 128).all (fun n =>
    decide ((Char.ofNat n).toUpper.val < 128) &&
      (Char.ofNat n).toUpper.toUpper == (Char.ofNat n).toUpper) = true := by decide +kernel

/-- **The first character of an upper case is a capital**: it is its own upper case. -/
theorem exists_capital (c : Char) : ∃ first rest, upperChar c = first :: rest ∧ upperChar first = [first] := by
  by_cases low : c.val < 128
  · have below : c.toNat ∈ List.range 128 := List.mem_range.mpr (UInt32.lt_iff_toNat_lt.mp low)
    have upper := List.all_eq_true.mp toUpper_ascii _ below
    simp only [Char.ofNat_toNat, Bool.and_eq_true, decide_eq_true_eq, beq_iff_eq] at upper
    refine ⟨c.toUpper, [], upperChar_of_ascii low, ?_⟩
    rw [upperChar_of_ascii upper.1, upper.2]
  · cases expanded : caseExpansions.lookup c.toNat with
    | some cs =>
      obtain ⟨first, rest, rfl, capital⟩ := capital_of_expansion expanded
      exact ⟨Char.ofNat first, rest.map Char.ofNat, by simp [upperChar, low, expanded],
        upperChar_of_capital capital⟩
    | none =>
      cases shifted : shiftIn caseRuns c.toNat with
      | some n =>
        exact ⟨Char.ofNat n, [], by simp [upperChar, low, expanded, shifted],
          upperChar_of_capital (capital_of_shift shifted)⟩
      | none =>
        have same : upperChar c = [c] := by simp [upperChar, low, expanded, shifted]
        exact ⟨c, [], same, same⟩

end Text

open Text

/-- **Capitalising once is enough.** -/
theorem capitalize_capitalize (s : String) : capitalize (capitalize s) = capitalize s := by
  cases chars : s.toList with
  | nil => simp [capitalize, chars]
  | cons c rest =>
    obtain ⟨first, more, upper, same⟩ := exists_capital c
    simp [capitalize, chars, upper, same]

end TypedClient
