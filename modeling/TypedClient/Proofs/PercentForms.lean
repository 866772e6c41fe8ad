import TypedClient.References.Percent
import TypedClient.Text.Blank
import TypedClient.Text.Split

/-!
# What is read of a written text

A text may have each of its bytes in percent form. They are read one by one: the first byte of a character announces
how many follow, and which code points have a shorter form.

**What is proved.** `decodeFrom_bytesOf`: every character in percent form is read as it is, and so is what follows it.
The lemmas on `replaceSeq` and `split` do the same for escapes and separators: they say what becomes of a text
character by character.
-/

namespace TypedClient

namespace References

/-! ## Percent forms are read back -/

/-- A byte in percent form. -/
def percentByte (b : Nat) : List Char := ['%', upperHex (b / 16), upperHex (b % 16)]

/-- Bytes read one after the other. -/
def readBytes : Option Sequence → List Nat → List Char × Option Sequence
  | state, [] => ([], state)
  | state, b :: rest =>
    let (found, state) := nextByte state b
    let (more, state) := readBytes state rest
    (found ++ more, state)

theorem hexValue?_upperHex : ∀ n < 16, Text.hexValue? (upperHex n) = some n := by decide

theorem decodeFrom_percentByte (state : Option Sequence) {b : Nat} (byte : b < 256) (rest : List Char) :
    decodeFrom state (percentByte b ++ rest) = (nextByte state b).1 ++ decodeFrom (nextByte state b).2 rest := by
  rw [percentByte, List.cons_append, List.cons_append, List.cons_append, List.nil_append, decodeFrom,
    hexValue?_upperHex _ (by omega), hexValue?_upperHex _ (by omega)]
  simp only [Nat.div_add_mod']

theorem decodeFrom_percentBytes (state : Option Sequence) {bytes : List Nat} (byte : ∀ b ∈ bytes, b < 256)
    (rest : List Char) : decodeFrom state (bytes.flatMap percentByte ++ rest) =
      (readBytes state bytes).1 ++ decodeFrom (readBytes state bytes).2 rest := by
  induction bytes generalizing state with
  | nil => rfl
  | cons b more ih =>
    obtain ⟨first, later⟩ := List.forall_mem_cons.mp byte
    rw [List.flatMap_cons, List.append_assoc, decodeFrom_percentByte state first, ih _ later, readBytes,
      List.append_assoc]

/-! ### The bytes of a character -/

/-- The bytes of a character. -/
def bytesOf (c : Char) : List Nat := (String.utf8EncodeChar c).map (·.toNat)

/-- The code point of a character is none of the surrogates and not too large. -/
theorem toNat_bounds (c : Char) : c.toNat < 0xD800 ∨ 0xDFFF < c.toNat ∧ c.toNat < 0x110000 := c.valid

theorem bytesOf_eq (c : Char) : bytesOf c =
    if c.toNat ≤ 0x7F then [c.toNat]
    else if c.toNat ≤ 0x7FF then [c.toNat / 64 + 0xC0, c.toNat % 64 + 0x80]
    else if c.toNat ≤ 0xFFFF then [c.toNat / 4096 + 0xE0, c.toNat / 64 % 64 + 0x80, c.toNat % 64 + 0x80]
    else [c.toNat / 262144 + 0xF0, c.toNat / 4096 % 64 + 0x80, c.toNat / 64 % 64 + 0x80, c.toNat % 64 + 0x80] := by
  have bounds := toNat_bounds c
  have value : c.val.toNat = c.toNat := rfl
  rw [bytesOf, String.utf8EncodeChar, value]
  split
  · simp only [List.map_cons, List.map_nil, UInt8.toNat_ofNat', List.cons.injEq, and_true]
    omega
  · split
    · simp only [List.map_cons, List.map_nil, UInt8.toNat_ofNat', List.cons.injEq, and_true]
      omega
    · split
      · simp only [List.map_cons, List.map_nil, UInt8.toNat_ofNat', List.cons.injEq, and_true]
        omega
      · simp only [List.map_cons, List.map_nil, UInt8.toNat_ofNat', List.cons.injEq, and_true]
        omega

theorem bytesOf_lt {c : Char} : ∀ b ∈ bytesOf c, b < 256 := by
  intro b hb
  obtain ⟨byte, _, rfl⟩ := List.mem_map.mp hb
  exact byte.toNat_lt

theorem begin?_two : ∀ x < 32, 2 ≤ x → Sequence.begin? (x + 0xC0) = some ⟨x, 1, 0x80, 0xBF⟩ := by decide

/-- Of three bytes the first leaves out what could be written with two, and the surrogates. -/
theorem begin?_three : ∀ x < 16, Sequence.begin? (x + 0xE0) =
    some ⟨x, 2, if x = 0 then 0xA0 else 0x80, if x = 0xD then 0x9F else 0xBF⟩ := by decide

/-- Of four bytes the first leaves out what could be written with three, and what is too large. -/
theorem begin?_four : ∀ x < 5, Sequence.begin? (x + 0xF0) =
    some ⟨x, 3, if x = 0 then 0x90 else 0x80, if x = 4 then 0x8F else 0xBF⟩ := by decide

theorem readBytes_begin {b : Nat} {s : Sequence} (high : 0x80 ≤ b) (begins : Sequence.begin? b = some s)
    (rest : List Nat) : readBytes none (b :: rest) = readBytes (some s) rest := by
  simp [readBytes, nextByte, beginByte, Nat.not_lt.mpr high, begins]

theorem readBytes_middle {b : Nat} {s : Sequence} (more : s.missing ≠ 1) (low : s.low ≤ b) (high : b ≤ s.high)
    (rest : List Nat) : readBytes (some s) (b :: rest) =
      readBytes (some ⟨s.code * 0x40 + (b - 0x80), s.missing - 1, 0x80, 0xBF⟩) rest := by
  simp [readBytes, nextByte, low, high, more]

theorem readBytes_last {b : Nat} {s : Sequence} (last : s.missing = 1) (low : s.low ≤ b) (high : b ≤ s.high) :
    readBytes (some s) [b] = ([Char.ofNat (s.code * 0x40 + (b - 0x80))], none) := by
  simp [readBytes, nextByte, low, high, last]

theorem readBytes_two {x y : Nat} (low : 2 ≤ x) (high : x < 32) (hy : y < 64) :
    readBytes none [x + 0xC0, y + 0x80] = ([Char.ofNat (x * 64 + y)], none) := by
  rw [readBytes_begin (by omega) (begin?_two x high low),
    readBytes_last rfl (Nat.le_add_left ..) (by dsimp only; omega), Nat.add_sub_cancel]

theorem readBytes_three {x y z : Nat} (high : x < 16) (long : x = 0 → 32 ≤ y) (scalar : x = 13 → y < 32)
    (hy : y < 64) (hz : z < 64) :
    readBytes none [x + 0xE0, y + 0x80, z + 0x80] = ([Char.ofNat ((x * 64 + y) * 64 + z)], none) := by
  have lower : (if x = 0 then 0xA0 else 0x80) ≤ y + 0x80 := by split <;> omega
  have upper : y + 0x80 ≤ if x = 0xD then 0x9F else 0xBF := by split <;> omega
  rw [readBytes_begin (by omega) (begin?_three x high), readBytes_middle (by simp) lower upper, Nat.add_sub_cancel,
    readBytes_last rfl (Nat.le_add_left ..) (by dsimp only; omega), Nat.add_sub_cancel]

theorem readBytes_four {x y z w : Nat} (long : x = 0 → 16 ≤ y) (scalar : x < 4 ∨ x = 4 ∧ y < 16) (hy : y < 64)
    (hz : z < 64) (hw : w < 64) : readBytes none [x + 0xF0, y + 0x80, z + 0x80, w + 0x80] =
      ([Char.ofNat (((x * 64 + y) * 64 + z) * 64 + w)], none) := by
  have lower : (if x = 0 then 0x90 else 0x80) ≤ y + 0x80 := by split <;> omega
  have upper : y + 0x80 ≤ if x = 4 then 0x8F else 0xBF := by split <;> omega
  rw [readBytes_begin (by omega) (begin?_four x (by omega)), readBytes_middle (by simp) lower upper,
    Nat.add_sub_cancel, readBytes_middle (by simp) (Nat.le_add_left ..) (by dsimp only; omega), Nat.add_sub_cancel,
    readBytes_last rfl (Nat.le_add_left ..) (by dsimp only; omega), Nat.add_sub_cancel]

/-- **The bytes of a character are read as the character.** -/
theorem readBytes_bytesOf (c : Char) : readBytes none (bytesOf c) = ([c], none) := by
  have bounds := toNat_bounds c
  have same : ∀ n, n = c.toNat → (([Char.ofNat n], none) : List Char × Option Sequence) = ([c], none) := by
    rintro _ rfl
    rw [Char.ofNat_toNat]
  -- the code point lies between the bounds that the first byte allows for, so each byte is in its place
  rw [bytesOf_eq]
  split
  · next one =>
    have ascii : c.toNat < 0x80 := by omega
    simp [readBytes, nextByte, beginByte, ascii]
  · split
    · rw [readBytes_two (by omega) (by omega) (by omega)]
      exact same _ (by omega)
    · split
      · rw [readBytes_three (by omega) (by omega) (by omega) (by omega) (by omega)]
        exact same _ (by omega)
      · rw [readBytes_four (by omega) (by omega) (by omega) (by omega) (by omega)]
        exact same _ (by omega)

/-- A character in percent form is read as it is. -/
theorem decodeFrom_bytesOf (c : Char) (rest : List Char) :
    decodeFrom none ((bytesOf c).flatMap percentByte ++ rest) = c :: decodeFrom none rest := by
  rw [decodeFrom_percentBytes none bytesOf_lt, readBytes_bytesOf]
  rfl

theorem decodeFrom_plain {c : Char} (ascii : c.toNat < 0x80) (notPercent : c ≠ '%') (rest : List Char) :
    decodeFrom none (c :: rest) = c :: decodeFrom none rest := by
  have read : nextByte none c.toNat = ([c], none) := by simp [nextByte, beginByte, ascii]
  rw [decodeFrom, if_pos ascii, read]
  · rfl
  · exact fun _ _ _ percent => absurd percent notPercent

theorem decodeFrom_append {front : List Char} (plain : ∀ c ∈ front, c.toNat < 0x80 ∧ c ≠ '%') (rest : List Char) :
    decodeFrom none (front ++ rest) = front ++ decodeFrom none rest := by
  induction front with
  | nil => rfl
  | cons c more ih =>
    obtain ⟨⟨ascii, notPercent⟩, later⟩ := List.forall_mem_cons.mp plain
    rw [List.cons_append, decodeFrom_plain ascii notPercent, ih later, List.cons_append]

end References

/-! ## Texts that are replaced, split and stripped -/

namespace Text

variable {old new : List Char}

theorem splitSeqFrom_ne_nil (sep : List Char) (skip : Nat) (cs : List Char) : splitSeqFrom sep skip cs ≠ [] := by
  fun_induction splitSeqFrom sep skip cs with
  | case1 => simp
  | case2 _ _ _ ih => exact ih
  | case3 => simp
  | case4 c cs _ ih => cases parts : splitSeqFrom sep 0 cs <;> simp [consFirst]

theorem replaceSeq_cons {c : Char} {rest : List Char} (other : ¬ old <+: c :: rest) :
    replaceSeq old new (c :: rest) = c :: replaceSeq old new rest := by
  rw [replaceSeq, splitSeq, splitSeqFrom, if_neg (by simpa [List.isPrefixOf_iff_prefix] using other)]
  have inhabited := splitSeqFrom_ne_nil old 0 rest
  rw [replaceSeq, splitSeq]
  cases parts : splitSeqFrom old 0 rest with
  | nil => exact absurd parts inhabited
  | cons part more => cases more <;> simp [consFirst, List.intercalate, List.intersperse]

/-- Characters that belong to an occurrence are skipped. -/
theorem splitSeqFrom_length_append (sep cs rest : List Char) :
    splitSeqFrom sep cs.length (cs ++ rest) = splitSeqFrom sep 0 rest := by
  induction cs with
  | nil => rfl
  | cons c cs ih => exact ih

/-- An occurrence is replaced. -/
theorem replaceSeq_append (inhabited : old ≠ []) (rest : List Char) :
    replaceSeq old new (old ++ rest) = new ++ replaceSeq old new rest := by
  obtain ⟨c, more, rfl⟩ := List.exists_cons_of_ne_nil inhabited
  have found : splitSeq (c :: more) (c :: more ++ rest) = [] :: splitSeqFrom (c :: more) 0 rest := by
    rw [splitSeq, List.cons_append, splitSeqFrom, ← List.cons_append, if_pos (by simp),
      ← splitSeqFrom_length_append _ more rest]
    rfl
  rw [replaceSeq, found, replaceSeq, splitSeq]
  cases parts : splitSeqFrom (c :: more) 0 rest with
  | nil => exact absurd parts (splitSeqFrom_ne_nil _ _ _)
  | cons part parts => simp [List.intercalate, List.intersperse]

theorem replaceSeq_pair (a b : Char) (new rest : List Char) :
    replaceSeq [a, b] new (a :: b :: rest) = new ++ replaceSeq [a, b] new rest :=
  replaceSeq_append (List.cons_ne_nil _ _) rest

/-- A text without the separator is one part. -/
theorem split_eq_single {sep : Char} {cs : List Char} (without : sep ∉ cs) : split sep cs = [cs] := by
  induction cs with
  | nil => rfl
  | cons c rest ih =>
    obtain ⟨other, later⟩ := not_or.mp (mt List.mem_cons.mpr without)
    rw [split, if_neg (Ne.symm other), ih later, consFirst]

/-! ### Ends that are dropped -/

theorem dropEndWhile_part (p : Char → Bool) (cs : List Char) : dropEndWhile p cs <+: cs := by
  rw [← List.reverse_suffix, dropEndWhile, List.reverse_reverse]
  exact List.dropWhile_suffix p

/-- What is left between the ends of a text is a part of it. -/
theorem stripChars_part (p : Char → Bool) (cs : List Char) : stripChars p cs <:+: cs :=
  (dropEndWhile_part p _).isInfix.trans (List.dropWhile_suffix p).isInfix

/-- Behind a character that is kept, nothing in front of it is dropped. -/
theorem dropEndWhile_append {p : Char → Bool} {cs : List Char} (kept : ∀ c ∈ cs.getLast?, p c = false)
    (ds : List Char) : dropEndWhile p (cs ++ ds) = cs ++ dropEndWhile p ds := by
  have all : cs.reverse.dropWhile p = cs.reverse := by
    cases chars : cs.reverse with
    | nil => rfl
    | cons c rest =>
      rw [← List.head?_reverse, chars] at kept
      exact List.dropWhile_cons_of_neg (by simp [kept c rfl])
  rw [dropEndWhile, dropEndWhile, List.reverse_append, List.dropWhile_append]
  split
  · next none =>
    rw [all, List.isEmpty_iff.mp none, List.reverse_reverse, List.reverse_nil, List.append_nil]
  · rw [List.reverse_append, List.reverse_reverse]

end Text

end TypedClient
