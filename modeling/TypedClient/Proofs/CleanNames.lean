import TypedClient.Proofs.CharacterClasses

/-!
# Names made of alphanumeric characters

`argumentName` and `memberName` keep the alphanumeric characters of a text and write low lines for all others.
An identifier is made of other characters than these: some alphanumeric ones, such as `²`, may not stand in it,
and some that may, such as the Thai `ำ`, may not begin it.

**What is proved.** `isValidName_argumentName` and `isValidName_memberName`: the name is valid exactly when the
alphanumeric characters of the text are `Spellable`. Whatever the text, the names are not empty and not reserved
and do not begin with a low line, so that something put behind one of them leaves it as valid as it is.
-/

namespace TypedClient

open Text

/-- The alphanumeric characters of a text. -/
def alphanumerics (s : String) : List Char := s.toList.filter isAlphanumeric

theorem isAlphanumeric_of_mem {s : String} {c : Char} (h : c ∈ alphanumerics s) : isAlphanumeric c = true :=
  (List.mem_filter.mp h).2

/-- Characters that an identifier can be made of: all of them may stand in one, and the first may begin one when
it is not a digit. -/
structure Spellable (cs : List Char) : Prop where
  parts : ∀ c ∈ cs, isIdentifierPart c = true
  begins : ∀ c ∈ cs.head?, isIdentifierStart c = true ∨ isDigit c = true

theorem spellable_nil : Spellable [] := ⟨nofun, nofun⟩

/-! ## Low lines -/

/-- The characters that are not low lines. -/
def letters (cs : List Char) : List Char := cs.filter (· != '_')

theorem letters_halveLowLines (cs : List Char) : letters (halveLowLines cs) = letters cs := by
  fun_induction halveLowLines cs with
  | case1 rest ih => simpa [letters] using ih
  | case2 c rest _ ih => rw [letters, letters, List.filter_cons, List.filter_cons, ← letters, ← letters, ih]
  | case3 => rfl

theorem letters_collapseLowLines (cs : List Char) : letters (collapseLowLines cs) = letters cs := by
  fun_induction collapseLowLines cs with
  | case1 cs _ ih => rw [ih, letters_halveLowLines]
  | case2 => rfl

theorem letters_dropWhile (cs : List Char) : letters (cs.dropWhile (· == '_')) = letters cs := by
  induction cs with
  | nil => rfl
  | cons c rest ih =>
    rw [List.dropWhile_cons]
    split
    · next line => rw [ih, letters, letters, List.filter_cons_of_neg (by simpa using line)]
    · rfl

theorem letters_reverse (cs : List Char) : letters cs.reverse = (letters cs).reverse :=
  List.filter_reverse ..

/-- Tidying up moves no letter. -/
theorem letters_tidyLowLines (cs : List Char) : letters (tidyLowLines cs) = letters cs := by
  rw [tidyLowLines, stripChars, dropEndWhile, letters_reverse, letters_dropWhile, letters_reverse,
    List.reverse_reverse, letters_dropWhile, letters_collapseLowLines]

/-- A tidy text begins with a letter. -/
theorem head?_tidyLowLines (cs : List Char) : (tidyLowLines cs).head? = (letters cs).head? := by
  let stripped := (collapseLowLines cs).dropWhile (· == '_')
  have front : tidyLowLines cs <+: stripped := by
    have suffix := List.dropWhile_suffix (· == '_') (l := stripped.reverse)
    rw [← List.reverse_prefix, List.reverse_reverse] at suffix
    exact suffix
  cases tidy : tidyLowLines cs with
  | nil => rw [← letters_tidyLowLines, tidy]; rfl
  | cons c rest =>
    have letter : c ≠ '_' := by
      obtain ⟨more, whole⟩ := tidy ▸ front
      have first := List.head?_dropWhile_not (· == '_') (collapseLowLines cs)
      rw [show (collapseLowLines cs).dropWhile (· == '_') = stripped from rfl, ← whole] at first
      simpa using first
    rw [← letters_tidyLowLines, tidy, letters, List.filter_cons_of_pos (by simpa using letter)]
    rfl

/-- A text can stand in an identifier when its letters can. -/
theorem all_part_letters (cs : List Char) : (letters cs).all isIdentifierPart = cs.all isIdentifierPart := by
  rw [letters, List.all_filter]
  refine congrArg (List.all cs) (funext fun c => ?_)
  by_cases line : c = '_'
  · rw [line]; decide
  · simp [line]

/-! ## Identifiers -/

theorem isIdentifierShape_append {cs : List Char} (inhabited : cs ≠ []) (ds : List Char) :
    isIdentifierShape (cs ++ ds) = (isIdentifierShape cs && ds.all isIdentifierPart) := by
  obtain ⟨c, rest, rfl⟩ := List.exists_cons_of_ne_nil inhabited
  simp [isIdentifierShape, Bool.and_assoc]

/-- Every reserved word is an identifier without low lines in which a small letter stands. -/
theorem reservedWords_spelled : ∀ w ∈ reservedWords, isIdentifierShape w.toList = true ∧ '_' ∉ w.toList ∧
    w.toList.any Char.isLower = true := by decide +kernel

theorem isReserved_of_lowLine {s : String} (line : '_' ∈ s.toList) : isReserved s = false := by
  refine Bool.eq_false_iff.mpr fun reserved => ?_
  exact (reservedWords_spelled s (List.contains_iff_mem.mp reserved)).2.1 line

/-- What has a low line in it can be put behind a name: the name is as valid as before. -/
theorem isValidName_append {name mark : String} (inhabited : name ≠ "") (free : isReserved name = false)
    (line : '_' ∈ mark.toList) (parts : mark.toList.all isIdentifierPart = true) :
    isValidName (name ++ mark) = isValidName name := by
  have reserved : isReserved (name ++ mark) = false :=
    isReserved_of_lowLine (String.toList_append ▸ List.mem_append_right _ line)
  rw [isValidName, isValidName, free, reserved, String.toList_append,
    isIdentifierShape_append (by simpa using inhabited), parts, Bool.and_true]

theorem isIdentifierPart_of_isAlphanum {c : Char} (plain : c.isAlphanum = true) : isIdentifierPart c = true := by
  rw [isIdentifierPart, if_pos (ascii_of_isAlphanum plain), plain, Bool.true_or]

theorem isValidName_underlined {name : String} (inhabited : name ≠ "") (free : isReserved name = false) (n : Nat) :
    isValidName (underlined name n) = isValidName name := by
  cases n with
  | zero => simp [underlined]
  | succ n =>
    have part : isIdentifierPart '_' = true := by decide
    refine isValidName_append inhabited free ?_ ?_
    · simp [List.replicate_succ]
    · simp [part]

theorem isValidName_numbered {name : String} (inhabited : name ≠ "") (free : isReserved name = false) (n : Nat) :
    isValidName (numbered name n) = isValidName name := by
  cases n with
  | zero => rfl
  | succ n =>
    have digits : (toString (n + 2)).toList.all isIdentifierPart = true := by
      rw [Nat.toString_eq_ofList_toDigits, String.toList_ofList]
      refine List.all_eq_true.mpr fun c hc => isIdentifierPart_of_isAlphanum ?_
      rw [Char.isAlphanum, Nat.isDigit_of_mem_toDigits (by decide) (by decide) hc, Bool.or_true]
    have line : isIdentifierPart '_' = true := by decide
    rw [numbered, String.append_assoc]
    exact isValidName_append inhabited free (by simp) (by simpa [line] using digits)

/-! ## A text that begins with a letter -/

/-- A tidy text with a mark in front of a leading digit, and a word in place of nothing. -/
def begun (mark word tidy : String) : String :=
  if startsWithDigit tidy then mark ++ tidy else if tidy = "" then word else tidy

/-- What is put in front of a text or in its place is an identifier that does not begin with a low line. -/
structure Opening (mark word : String) : Prop where
  markShape : isIdentifierShape mark.toList = true
  wordShape : isIdentifierShape word.toList = true
  markFirst : mark.toList.head? ≠ some '_'
  wordFirst : word.toList.head? ≠ some '_'

theorem ne_empty_of_shape {s : String} (shape : isIdentifierShape s.toList = true) : s ≠ "" := by
  rintro rfl
  cases shape

theorem begun_empty (mark word : String) : begun mark word "" = word := rfl

theorem begun_cons {tidy : String} {c : Char} {rest : List Char} (chars : tidy.toList = c :: rest)
    (mark word : String) : begun mark word tidy = if isDigit c then mark ++ tidy else tidy := by
  have inhabited : tidy ≠ "" := by
    rintro rfl
    cases chars
  rw [begun, startsWithDigit, chars, if_neg inhabited]

/-- A tidy text is made an identifier exactly when its letters are spellable. -/
theorem isIdentifierShape_begun {mark word : String} (opening : Opening mark word) (cs : List Char) :
    isIdentifierShape (begun mark word (String.ofList (tidyLowLines cs))).toList = true ↔
      Spellable (letters cs) := by
  have first := head?_tidyLowLines cs
  have parts : (letters cs).all isIdentifierPart = (tidyLowLines cs).all isIdentifierPart := by
    rw [← letters_tidyLowLines, all_part_letters]
  cases tidy : tidyLowLines cs with
  | nil =>
    have none : letters cs = [] := List.head?_eq_none_iff.mp (by rw [← first, tidy, List.head?_nil])
    rw [none, String.ofList_nil, begun_empty]
    exact iff_of_true opening.wordShape spellable_nil
  | cons c rest =>
    rw [tidy, List.head?_cons] at first
    rw [tidy] at parts
    rw [begun_cons String.toList_ofList]
    split
    · next digit =>
      rw [String.toList_append, String.toList_ofList,
        isIdentifierShape_append (by simpa using ne_empty_of_shape opening.markShape), opening.markShape,
        Bool.true_and, ← parts]
      refine ⟨fun all => ⟨List.all_eq_true.mp all, ?_⟩, fun spellable => List.all_eq_true.mpr spellable.parts⟩
      rw [← first]
      rintro _ ⟨⟩
      exact .inr digit
    · next other =>
      rw [String.toList_ofList, isIdentifierShape]
      constructor
      · intro shape
        obtain ⟨start, later⟩ := Bool.and_eq_true_iff.mp shape
        rw [List.all_cons, isIdentifierPart_of_start start, later] at parts
        refine ⟨List.all_eq_true.mp parts, ?_⟩
        rw [← first]
        rintro _ ⟨⟩
        exact .inl start
      · intro spellable
        rw [List.all_eq_true.mpr spellable.parts, List.all_cons] at parts
        have start := (spellable.begins c first.symm).resolve_right other
        rw [start, (Bool.and_eq_true_iff.mp parts.symm).2]
        rfl

/-- A text that is begun does not begin with a low line. -/
theorem head?_begun {mark word : String} (opening : Opening mark word) (cs : List Char) :
    ∃ c, (begun mark word (String.ofList (tidyLowLines cs))).toList.head? = some c ∧ c ≠ '_' := by
  have given : ∀ {s : String}, isIdentifierShape s.toList = true → s.toList.head? ≠ some '_' →
      ∃ c, s.toList.head? = some c ∧ c ≠ '_' := by
    intro s shape first
    obtain ⟨c, rest, chars⟩ := List.exists_cons_of_ne_nil (mt String.toList_eq_nil_iff.mp (ne_empty_of_shape shape))
    rw [chars] at first ⊢
    exact ⟨c, rfl, fun line => first (congrArg some line)⟩
  cases tidy : tidyLowLines cs with
  | nil => exact given opening.wordShape opening.wordFirst
  | cons c rest =>
    rw [begun_cons String.toList_ofList]
    split
    · obtain ⟨d, first, letter⟩ := given opening.markShape opening.markFirst
      rw [String.toList_append, List.head?_append, first]
      exact ⟨d, rfl, letter⟩
    · have first := head?_tidyLowLines cs
      rw [tidy, List.head?_cons] at first
      rw [String.toList_ofList]
      exact ⟨c, rfl, by simpa using (List.mem_filter.mp (List.mem_of_head? first.symm)).2⟩

/-! ## The names of fields, parameters and methods -/

/-- The alphanumeric characters of a text, with low lines for the others. -/
def plainChars (s : String) : List Char := s.toList.map fun c => if isAlphanumeric c || c == '_' then c else '_'

theorem letters_plainChars (s : String) : letters (plainChars s) = alphanumerics s := by
  rw [plainChars, alphanumerics]
  induction s.toList with
  | nil => rfl
  | cons c rest ih =>
    rw [List.map_cons, letters, List.filter_cons, List.filter_cons, ← letters, ih]
    by_cases line : c = '_'
    · subst line
      have : isAlphanumeric '_' = false := by decide
      simp [this]
    · cases letter : isAlphanumeric c <;> simp [line]

/-- The name of a text, before a reserved word is changed. -/
def plainName (s : String) : String := begun "param_" "param" (String.ofList (tidyLowLines (plainChars s)))

theorem argumentName_eq (s : String) :
    argumentName s = if isReserved (plainName s) then plainName s ++ "_field" else plainName s := by
  have marked : ∀ tidy, (if (if startsWithDigit tidy then "param_" ++ tidy else tidy) = "" then "param"
      else if startsWithDigit tidy then "param_" ++ tidy else tidy) = begun "param_" "param" tidy := by
    intro tidy
    rw [begun]
    split
    · simp
    · rfl
  rw [plainName, ← marked]
  rfl

theorem argument_opening : Opening "param_" "param" := ⟨by decide, by decide, by decide, by decide⟩

/-- Whatever the text, the name begins with a character that is not a low line. -/
theorem head?_argumentName (s : String) : ∃ c, (argumentName s).toList.head? = some c ∧ c ≠ '_' := by
  obtain ⟨c, first, letter⟩ := head?_begun argument_opening (plainChars s)
  rw [argumentName_eq]
  split
  · rw [String.toList_append, List.head?_append, plainName, first]
    exact ⟨c, rfl, letter⟩
  · exact ⟨c, first, letter⟩

theorem argumentName_ne_empty (s : String) : argumentName s ≠ "" := by
  obtain ⟨c, first, _⟩ := head?_argumentName s
  intro none
  rw [none] at first
  cases first

/-- Whatever the text, the name is not reserved. -/
theorem isReserved_argumentName (s : String) : isReserved (argumentName s) = false := by
  rw [argumentName_eq]
  split
  · exact isReserved_of_lowLine (by simp)
  · next free => simpa using free

/-- **The name of a field, a parameter or a method is valid exactly when the text is spellable.** -/
theorem isValidName_argumentName (s : String) :
    isValidName (argumentName s) = true ↔ Spellable (alphanumerics s) := by
  have spelled := isIdentifierShape_begun argument_opening (plainChars s)
  rw [letters_plainChars, ← plainName] at spelled
  rw [isValidName, isReserved_argumentName, Bool.not_false, Bool.and_true, ← spelled, argumentName_eq]
  split
  · next reserved =>
    have shape := (reservedWords_spelled _ (List.contains_iff_mem.mp reserved)).1
    have inhabited : (plainName s).toList ≠ [] := by simpa using ne_empty_of_shape shape
    have field : "_field".toList.all isIdentifierPart = true := by decide
    rw [String.toList_append, isIdentifierShape_append inhabited, field, Bool.and_true]
  · rfl

/-! ## The names of members -/

/-- The alphanumeric characters of a text in upper case, with low lines for the others. -/
def raisedChars (s : String) : List Char := s.toList.flatMap fun c => if isAlphanumeric c then upperChar c else ['_']

theorem letters_raisedChars (s : String) : letters (raisedChars s) = (alphanumerics s).flatMap upperChar := by
  rw [raisedChars, alphanumerics]
  induction s.toList with
  | nil => rfl
  | cons c rest ih =>
    rw [List.flatMap_cons, letters, List.filter_append, ← letters, ← letters, ih, List.filter_cons]
    cases letter : isAlphanumeric c with
    | false => simp [letters]
    | true =>
      have kept : letters (upperChar c) = upperChar c := by
        refine List.filter_eq_self.mpr fun d hd => ?_
        have := (raises_upperChar letter).high d hd
        simp only [isLow, Bool.or_eq_false_iff] at this
        simp [bne, this.1]
      simp [kept]

/-- Upper case keeps alphanumeric characters spellable. -/
theorem spellable_flatMap_upperChar {cs : List Char} (alphanumeric : ∀ c ∈ cs, isAlphanumeric c = true) :
    Spellable (cs.flatMap upperChar) ↔ Spellable cs := by
  have parts : (∀ d ∈ cs.flatMap upperChar, isIdentifierPart d = true) ↔ ∀ c ∈ cs, isIdentifierPart c = true := by
    rw [List.forall_mem_flatMap]
    exact forall₂_congr fun c hc => (raises_upperChar (alphanumeric c hc)).parts
  have begins : (∀ d ∈ (cs.flatMap upperChar).head?, isIdentifierStart d = true ∨ isDigit d = true) ↔
      ∀ c ∈ cs.head?, isIdentifierStart c = true ∨ isDigit c = true := by
    cases cs with
    | nil => rfl
    | cons c rest =>
      obtain ⟨first, more, raised, start, digit⟩ := (raises_upperChar (alphanumeric c List.mem_cons_self)).begins
      simp [raised, start, digit]
  exact ⟨fun h => ⟨parts.mp h.parts, begins.mp h.begins⟩, fun h => ⟨parts.mpr h.parts, begins.mpr h.begins⟩⟩

/-- The name of a text that is neither empty nor blank. -/
def raisedName (s : String) : String := begun "VALUE_" "VALUE" (String.ofList (tidyLowLines (raisedChars s)))

theorem member_opening : Opening "VALUE_" "VALUE" := ⟨by decide, by decide, by decide, by decide⟩

/-- Only a text with nothing alphanumeric in it gets a name of its own. -/
theorem memberName_cases (s : String) :
    (memberName s = "EMPTY" ∨ memberName s = "SPACE") ∧ alphanumerics s = [] ∨ memberName s = raisedName s := by
  by_cases empty : s = ""
  · subst empty
    exact .inl ⟨.inl rfl, rfl⟩
  · rw [memberName, if_neg empty]
    split
    · next blank =>
      refine .inl ⟨.inr rfl, List.filter_eq_nil_iff.mpr fun c hc => ?_⟩
      simp [isAlphanumeric_of_blank (List.all_eq_true.mp blank c hc)]
    · exact .inr rfl

/-- No letter of a raised text is a small ASCII letter. -/
theorem isLower_raisedName (s : String) : ∀ c ∈ (raisedName s).toList, c.isLower = false := by
  have fixed : ∀ c ∈ "VALUE_".toList ++ "VALUE".toList, c.isLower = false := by
    have none : ("VALUE_".toList ++ "VALUE".toList).all (!·.isLower) = true := by decide
    exact fun c hc => by simpa using List.all_eq_true.mp none c hc
  have tidied : ∀ c ∈ (String.ofList (tidyLowLines (raisedChars s))).toList, c.isLower = false := by
    intro c hc
    rw [String.toList_ofList] at hc
    by_cases line : c = '_'
    · subst line
      decide
    · have letter : c ∈ letters (tidyLowLines (raisedChars s)) := List.mem_filter.mpr ⟨hc, by simpa using line⟩
      rw [letters_tidyLowLines, letters_raisedChars] at letter
      obtain ⟨d, hd, raised⟩ := List.mem_flatMap.mp letter
      exact (Bool.or_eq_false_iff.mp ((raises_upperChar (isAlphanumeric_of_mem hd)).high c raised)).2
  intro c hc
  rw [raisedName, begun] at hc
  split at hc
  · rw [String.toList_append] at hc
    exact (List.mem_append.mp hc).elim (fun h => fixed c (List.mem_append_left _ h)) (tidied c)
  · split at hc
    · exact fixed c (List.mem_append_right _ hc)
    · exact tidied c hc

/-- Whatever the text, the name of a member is not reserved. -/
theorem isReserved_memberName (s : String) : isReserved (memberName s) = false := by
  rcases memberName_cases s with ⟨empty | space, _⟩ | raised
  · rw [empty]; decide
  · rw [space]; decide
  · rw [raised]
    refine Bool.eq_false_iff.mpr fun reserved => ?_
    obtain ⟨c, hc, small⟩ := List.any_eq_true.mp (reservedWords_spelled _ (List.contains_iff_mem.mp reserved)).2.2
    cases small.symm.trans (isLower_raisedName s c hc)

theorem memberName_ne_empty (s : String) : memberName s ≠ "" := by
  rcases memberName_cases s with ⟨empty | space, _⟩ | raised
  · rw [empty]; decide
  · rw [space]; decide
  · intro none
    obtain ⟨c, first, _⟩ := head?_begun member_opening (raisedChars s)
    rw [← raisedName, ← raised, none] at first
    cases first

/-- **The name of a member is valid exactly when the text is spellable.** -/
theorem isValidName_memberName (s : String) :
    isValidName (memberName s) = true ↔ Spellable (alphanumerics s) := by
  have spelled := isIdentifierShape_begun member_opening (raisedChars s)
  rw [letters_raisedChars, spellable_flatMap_upperChar fun _ => isAlphanumeric_of_mem, ← raisedName] at spelled
  rw [isValidName, isReserved_memberName, Bool.not_false, Bool.and_true]
  rcases memberName_cases s with ⟨empty | space, none⟩ | raised
  · rw [empty, none]
    exact iff_of_true (by decide) spellable_nil
  · rw [space, none]
    exact iff_of_true (by decide) spellable_nil
  · rw [raised, spelled]

end TypedClient
