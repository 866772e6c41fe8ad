import TypedClient.Proofs.CleanNames
import TypedClient.Proofs.PercentForms
import Mathlib.Data.List.SplitBy
import Mathlib.Logic.Function.Iterate

/-!
# Tidy names

Names of fields, parameters and methods have no two low lines side by side. To bring this about, pairs of low lines
are replaced by single ones. A replacement goes on behind the pair that it has found, so one pass makes a run of low
lines about half as long, and passes are made as long as there is a pair.

**What is proved.** `collapseLowLines_loop`: the passes come to an end. `collapseLowLines_eq`: what they leave has one
low line for each run of low lines, however long. `argumentName_tidy`: whatever the text, its name is tidy and not
reserved, and a name of this kind is its own name. So what is put in front of a text or behind it later on does not undo
what was done to it before.
-/

namespace TypedClient

open Text

/-! ## One pass -/

/-- A text with all pairs of low lines replaced. -/
def replacePairs (cs : List Char) : List Char := replaceSeq ['_', '_'] ['_'] cs

theorem not_pair_begins {c : Char} {rest : List Char} (other : ∀ more, c = '_' → rest = '_' :: more → False) :
    ¬ ['_', '_'] <+: c :: rest := by
  rintro ⟨more, whole⟩
  obtain ⟨first, later⟩ := List.cons.inj whole
  exact other more first.symm later.symm

theorem halveLowLines_eq (cs : List Char) : halveLowLines cs = replacePairs cs := by
  unfold replacePairs
  fun_induction halveLowLines cs with
  | case1 rest ih => rw [replaceSeq_pair, ih, List.singleton_append]
  | case2 c rest other ih => rw [replaceSeq_cons (not_pair_begins other), ih]
  | case3 => rfl

theorem hasDoubleLowLine_eq (cs : List Char) : hasDoubleLowLine cs = occurs ['_', '_'] cs := by
  fun_induction hasDoubleLowLine cs with
  | case1 rest => simp [occurs]
  | case2 c rest other ih =>
    have noPair : ['_', '_'].isPrefixOf (c :: rest) = false :=
      Bool.eq_false_iff.mpr fun begins => not_pair_begins other (List.isPrefixOf_iff_prefix.mp begins)
    rw [occurs, noPair, Bool.false_or, ih]
  | case3 => rfl

/-- No two low lines stand side by side. -/
def Apart (cs : List Char) : Prop := cs.IsChain fun c d => ¬ (c = '_' ∧ d = '_')

instance (cs : List Char) : Decidable (Apart cs) := inferInstanceAs (Decidable (List.IsChain _ _))

theorem hasDoubleLowLine_eq_false {cs : List Char} : hasDoubleLowLine cs = false ↔ Apart cs := by
  fun_induction hasDoubleLowLine cs with
  | case1 rest => simp [Apart]
  | case2 c rest other ih =>
    rw [ih, Apart, Apart, List.isChain_cons]
    refine ⟨fun later => ⟨?_, later⟩, And.right⟩
    rintro d first ⟨rfl, rfl⟩
    obtain ⟨more, rfl⟩ := List.head?_eq_some_iff.mp first
    exact other more rfl rfl
  | case3 => simp [Apart]

/-! ## All passes -/

/-- The loop over `body` that goes on as long as `guard` holds: it ends after so many turns, with this result. -/
structure LoopEnds {α : Type} (guard : α → Bool) (body : α → α) (start result : α) (turns : Nat) : Prop where
  goesOn : ∀ k < turns, guard (body^[k] start) = true
  ends : guard (body^[turns] start) = false
  result : result = body^[turns] start

/-- **The passes come to an end**, after no more of them than there are characters. -/
theorem collapseLowLines_loop (cs : List Char) :
    ∃ passes ≤ cs.length, LoopEnds (occurs ['_', '_']) replacePairs cs (collapseLowLines cs) passes := by
  fun_induction collapseLowLines cs with
  | case1 cs pair ih =>
    obtain ⟨passes, bounded, later⟩ := ih
    have shorter := length_halveLowLines_lt pair
    rw [halveLowLines_eq] at later bounded shorter
    rw [halveLowLines_eq]
    refine ⟨passes + 1, by omega, ?_, later.ends, later.result⟩
    intro k hk
    cases k with
    | zero => exact hasDoubleLowLine_eq cs ▸ pair
    | succ k => exact later.goesOn k (by omega)
  | case2 cs single =>
    refine ⟨0, Nat.zero_le _, fun k hk => absurd hk (Nat.not_lt_zero k), ?_, rfl⟩
    rw [Function.iterate_zero_apply, ← hasDoubleLowLine_eq]
    simpa using single

theorem collapseLowLines_apart (cs : List Char) : Apart (collapseLowLines cs) := by
  fun_induction collapseLowLines cs with
  | case1 cs _ ih => exact ih
  | case2 cs single => exact hasDoubleLowLine_eq_false.mp (by simpa using single)

theorem collapseLowLines_of_apart {cs : List Char} (apart : Apart cs) : collapseLowLines cs = cs := by
  rw [collapseLowLines, dif_neg (by simp [hasDoubleLowLine_eq_false.mpr apart])]

/-! ## Runs of low lines -/

/-- The runs of low lines in a text, each as long as it can be. Any other character is a run of its own. -/
def lowLineRuns (cs : List Char) : List (List Char) := cs.splitBy fun c d => c == '_' && d == '_'

/-- One character for each run. -/
def squeezeLowLines (cs : List Char) : List Char := (lowLineRuns cs).flatMap (·.take 1)

/-- A low line in front of another one makes its run longer. -/
theorem lowLineRuns_pair (rest : List Char) : ∃ run runs, lowLineRuns ('_' :: rest) = ('_' :: run) :: runs ∧
    lowLineRuns ('_' :: '_' :: rest) = ('_' :: '_' :: run) :: runs := by
  cases found : lowLineRuns ('_' :: rest) with
  | nil => cases List.splitBy_eq_nil.mp found
  | cons first runs =>
    obtain ⟨joined, inhabited, chains, separate⟩ := List.splitBy_eq_iff.mp found
    cases first with
    | nil => exact absurd List.mem_cons_self inhabited
    | cons c run =>
      obtain ⟨rfl, joined⟩ := List.cons.inj joined
      obtain ⟨chain, chains⟩ := List.forall_mem_cons.mp chains
      refine ⟨run, runs, rfl, List.splitBy_eq_iff.mpr ⟨?_, ?_, ?_, ?_⟩⟩
      · rw [List.flatten_cons, List.cons_append, List.cons_append, joined]
        rfl
      · simpa using inhabited
      · refine List.forall_mem_cons.mpr ⟨?_, chains⟩
        exact List.isChain_cons_cons.mpr ⟨rfl, chain⟩
      · cases runs with
        | nil => exact List.isChain_singleton _
        | cons next runs =>
          obtain ⟨⟨_, nextInhabited, differ⟩, separate⟩ := List.isChain_cons_cons.mp separate
          refine List.isChain_cons_cons.mpr ⟨⟨List.cons_ne_nil _ _, nextInhabited, ?_⟩, separate⟩
          rwa [List.getLast_cons (List.cons_ne_nil _ _)]

theorem squeezeLowLines_cons (c : Char) (rest : List Char) : squeezeLowLines (c :: rest) =
    if c = '_' ∧ rest.head? = some '_' then squeezeLowLines rest else c :: squeezeLowLines rest := by
  split
  · next pair =>
    obtain ⟨rfl, first⟩ := pair
    obtain ⟨more, rfl⟩ := List.head?_eq_some_iff.mp first
    obtain ⟨run, runs, shorter, longer⟩ := lowLineRuns_pair more
    rw [squeezeLowLines, squeezeLowLines, shorter, longer]
    rfl
  · next other =>
    have separate : ∀ d ∈ [c].getLast?, ∀ e ∈ rest.head?, (d == '_' && e == '_') = false := by
      rintro _ ⟨⟩ e first
      refine Bool.eq_false_iff.mpr fun both => other ?_
      simp only [Bool.and_eq_true, beq_iff_eq] at both
      exact ⟨both.1, both.2 ▸ first⟩
    have runs : lowLineRuns ([c] ++ rest) = lowLineRuns [c] ++ lowLineRuns rest := List.splitBy_append separate
    rw [← List.singleton_append, squeezeLowLines, runs, List.flatMap_append]
    rfl

theorem head?_halveLowLines (cs : List Char) : (halveLowLines cs).head? = cs.head? := by
  fun_cases halveLowLines cs with
  | case1 rest => rfl
  | case2 c rest _ => rfl
  | case3 => rfl

/-- A pass leaves each run a run. -/
theorem squeezeLowLines_halveLowLines (cs : List Char) : squeezeLowLines (halveLowLines cs) = squeezeLowLines cs := by
  fun_induction halveLowLines cs with
  | case1 rest ih =>
    have pair : squeezeLowLines ('_' :: '_' :: rest) = squeezeLowLines ('_' :: rest) := by
      rw [squeezeLowLines_cons, if_pos ⟨rfl, rfl⟩]
    rw [pair, squeezeLowLines_cons, head?_halveLowLines, ih, ← squeezeLowLines_cons]
  | case2 c rest _ ih => rw [squeezeLowLines_cons, head?_halveLowLines, ih, ← squeezeLowLines_cons]
  | case3 => rfl

theorem squeezeLowLines_of_apart {cs : List Char} (apart : Apart cs) : squeezeLowLines cs = cs := by
  induction cs with
  | nil => rfl
  | cons c rest ih =>
    obtain ⟨first, later⟩ := List.isChain_cons.mp apart
    rw [squeezeLowLines_cons, if_neg, ih later]
    rintro ⟨rfl, line⟩
    exact first '_' line ⟨rfl, rfl⟩

/-- **The passes leave one low line for each run of low lines.** -/
theorem collapseLowLines_eq (cs : List Char) : collapseLowLines cs = squeezeLowLines cs := by
  fun_induction collapseLowLines cs with
  | case1 cs _ ih => rw [ih, squeezeLowLines_halveLowLines]
  | case2 cs single =>
    rw [squeezeLowLines_of_apart (hasDoubleLowLine_eq_false.mp (by simpa using single))]

/-! ## What is tidied up -/

theorem getLast?_tidyLowLines (cs : List Char) : (tidyLowLines cs).getLast? ≠ some '_' := by
  have first := List.head?_dropWhile_not (· == '_') ((collapseLowLines cs).dropWhile (· == '_')).reverse
  rw [tidyLowLines, stripChars, dropEndWhile, List.getLast?_reverse]
  intro line
  rw [line] at first
  simp at first

theorem tidyLowLines_apart (cs : List Char) : Apart (tidyLowLines cs) :=
  List.IsChain.infix (collapseLowLines_apart cs) (stripChars_part _ _)

/-- What begins and ends with other characters, and has no two low lines side by side, is tidy. -/
theorem tidyLowLines_of_apart {cs : List Char} (apart : Apart cs) (first : cs.head? ≠ some '_')
    (last : cs.getLast? ≠ some '_') : tidyLowLines cs = cs := by
  have kept : ∀ ds : List Char, ds.head? ≠ some '_' → ds.dropWhile (· == '_') = ds := by
    intro ds first
    cases ds with
    | nil => rfl
    | cons c rest => exact List.dropWhile_cons_of_neg (by simpa using first)
  rw [tidyLowLines, collapseLowLines_of_apart apart, stripChars, kept cs first, dropEndWhile,
    kept cs.reverse (by rwa [List.head?_reverse]), List.reverse_reverse]

/-! ## Names -/

/-- A text of alphanumeric characters and low lines, these one at a time and not at the ends. -/
structure Tidy (cs : List Char) : Prop where
  made : ∀ c ∈ cs, isAlphanumeric c = true ∨ c = '_'
  apart : Apart cs
  first : cs.head? ≠ some '_'
  last : cs.getLast? ≠ some '_'

instance (cs : List Char) : Decidable (Tidy cs) :=
  have : Decidable (∀ c ∈ cs, isAlphanumeric c = true ∨ c = '_') := List.decidableBAll _ cs
  decidable_of_iff ((∀ c ∈ cs, isAlphanumeric c = true ∨ c = '_') ∧ Apart cs ∧ cs.head? ≠ some '_' ∧
    cs.getLast? ≠ some '_') ⟨fun ⟨a, b, c, d⟩ => ⟨a, b, c, d⟩, fun ⟨a, b, c, d⟩ => ⟨a, b, c, d⟩⟩

/-- Two tidy texts with a low line between them. -/
theorem Tidy.append {cs ds : List Char} (left : Tidy cs) (right : Tidy ds) (inhabited : cs ≠ [])
    (inhabited' : ds ≠ []) : Tidy (cs ++ '_' :: ds) where
  made := by
    intro c member
    rcases List.mem_append.mp member with member | member
    · exact left.made c member
    · rcases List.mem_cons.mp member with line | member
      · exact .inr line
      · exact right.made c member
  apart := by
    refine List.isChain_append.mpr ⟨left.apart, List.isChain_cons.mpr ⟨?_, right.apart⟩, ?_⟩
    · rintro d first ⟨_, rfl⟩
      exact right.first first
    · rintro c last _ _ ⟨rfl, _⟩
      exact left.last last
  first := by
    rw [List.head?_append_of_ne_nil _ inhabited]
    exact left.first
  last := by
    rw [List.getLast?_append_of_ne_nil _ (List.cons_ne_nil _ _), List.getLast?_cons_of_ne_nil inhabited']
    exact right.last

theorem tidy_tidyLowLines (s : String) : Tidy (tidyLowLines (plainChars s)) where
  made := by
    intro c member
    by_cases line : c = '_'
    · exact .inr line
    · have letter : c ∈ letters (tidyLowLines (plainChars s)) := List.mem_filter.mpr ⟨member, by simpa using line⟩
      rw [letters_tidyLowLines, letters_plainChars] at letter
      exact .inl (isAlphanumeric_of_mem letter)
  apart := tidyLowLines_apart _
  first := by
    rw [head?_tidyLowLines]
    intro line
    simpa using (List.mem_filter.mp (List.mem_of_head? line)).2
  last := getLast?_tidyLowLines _

/-- A tidy name that does not begin with a digit. -/
structure IsTidy (name : String) : Prop where
  inhabited : name ≠ ""
  tidy : Tidy name.toList
  digit : startsWithDigit name = false

theorem isTidy_plainName (s : String) : IsTidy (plainName s) := by
  have chars := tidy_tidyLowLines s
  rw [plainName]
  cases tidied : tidyLowLines (plainChars s) with
  | nil =>
    rw [String.ofList_nil, begun_empty]
    exact ⟨by decide, by decide, by decide⟩
  | cons c rest =>
    rw [tidied] at chars
    rw [begun_cons String.toList_ofList]
    split
    · have param : Tidy "param".toList := by decide
      refine ⟨by simp, ?_, ?_⟩
      · rw [String.toList_append, @String.toList_ofList (c :: rest)]
        exact param.append chars (by decide) (List.cons_ne_nil _ _)
      · rw [startsWithDigit, String.toList_append]
        rfl
    · next other =>
      refine ⟨by simp, by rwa [String.toList_ofList], ?_⟩
      rw [startsWithDigit, String.toList_ofList]
      simpa using other

theorem isTidy_argumentName (s : String) : IsTidy (argumentName s) := by
  obtain ⟨inhabited, tidy, digit⟩ := isTidy_plainName s
  rw [argumentName_eq]
  split
  · obtain ⟨c, rest, chars⟩ := List.exists_cons_of_ne_nil (mt String.toList_eq_nil_iff.mp inhabited)
    have field : Tidy "field".toList := by decide
    refine ⟨by simp, ?_, ?_⟩
    · rw [String.toList_append]
      exact tidy.append field (by simp [chars]) (by decide)
    · rw [startsWithDigit, chars] at digit
      rw [startsWithDigit, String.toList_append, chars]
      exact digit
  · exact ⟨inhabited, tidy, digit⟩

/-- A tidy name that is not reserved is its own name. -/
theorem argumentName_of_isTidy {name : String} (h : IsTidy name) (free : isReserved name = false) :
    argumentName name = name := by
  have plain : plainChars name = name.toList := by
    refine (List.map_congr_left fun c member => if_pos ?_).trans (List.map_id _)
    simpa using h.tidy.made c member
  have same : plainName name = name := by
    rw [plainName, plain, tidyLowLines_of_apart h.tidy.apart h.tidy.first h.tidy.last, String.ofList_toList, begun,
      h.digit, if_neg Bool.false_ne_true, if_neg h.inhabited]
  rw [argumentName_eq, same, free, if_neg Bool.false_ne_true]

/-- **The name of a field, a parameter or a method.** Whatever the text, replacing pairs of low lines comes to an
end and leaves one for each run of them; the name is tidy, not empty, does not begin with a digit and is not
reserved; and it is its own name. -/
theorem argumentName_tidy (s : String) :
    (∃ passes ≤ (plainChars s).length,
        LoopEnds (occurs ['_', '_']) replacePairs (plainChars s) (collapseLowLines (plainChars s)) passes) ∧
      collapseLowLines (plainChars s) = squeezeLowLines (plainChars s) ∧
      IsTidy (argumentName s) ∧ isReserved (argumentName s) = false ∧
      argumentName (argumentName s) = argumentName s :=
  ⟨collapseLowLines_loop _, collapseLowLines_eq _, isTidy_argumentName s, isReserved_argumentName s,
    argumentName_of_isTidy (isTidy_argumentName s) (isReserved_argumentName s)⟩

/-- Low lines, a digit and a reserved word. -/
example : ["a____b", "__2__", "-class-", "², ³", ""].map argumentName =
    ["a_b", "param_2", "class_field", "param_²_³", "param"] := by decide +kernel

end TypedClient
