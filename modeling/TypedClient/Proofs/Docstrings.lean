import TypedClient.Proofs.PercentForms
import TypedClient.Source.Text
import Mathlib.Data.List.DropRight
import Mathlib.Logic.Function.Iterate

/-!
# Documentation as string literals

The documentation of a class or a function is pasted into its source between two runs of three double quotes. Such a
literal is read from its opening on: a backslash takes the next character with it, and the first three double quotes
in a row of which none is taken end the literal. Three quotes in a row do not stand in the pasted text, since they
are written with single quotes there. But its last characters meet the closing quotes.

**What is proved.** `docstring_wholeLiteral_iff`: the documentation is read as one literal up to its last three
quotes, at every level of indentation and whatever code comes after it, exactly when the pasted text does not
`EndsOpen`, that is, in a backslash or a double quote that is not escaped itself. A summary that quotes its last
word ends open.

Reading goes over the text with one bit of state, and indenting commutes with it (`behind?_indentChars`): a margin
stands behind a line end, so that no backslash takes a part of it.
-/

namespace TypedClient

namespace Source

/-! ## Reading a literal -/

/-- Three double quotes. -/
def quotes : List Char := ['"', '"', '"']

/-- Whether the next character is escaped: a backslash escapes it, unless it is escaped itself. -/
def escapes (escaped : Bool) (c : Char) : Bool := !escaped && c == '\\'

/-- What stands behind a literal of which the opening quotes are read. -/
def behind? : (escaped : Bool) → List Char → Option (List Char)
  | false, '"' :: '"' :: '"' :: rest => some rest
  | escaped, c :: rest => behind? (escapes escaped c) rest
  | _, [] => none

/-- What stands behind the literal that a text begins with; none when it does not begin with one, or with one that
does not end. -/
def behindLiteral? : List Char → Option (List Char)
  | '"' :: '"' :: '"' :: rest => behind? false rest
  | _ => none

/-- The margin of a level of indentation. -/
def margin (levels : Nat) : List Char := List.replicate (4 * levels) ' '

/-- Whether the documentation is one whole literal. It is indented together with the code behind it; behind the
margin a literal begins that ends at the last three quotes, so that the line end and the code come next. -/
def IsWholeLiteral (levels : Nat) (description code : String) : Prop :=
  ∃ text, (indent^[levels] (docstring (some description) ++ code)).toList = margin levels ++ text ∧
    behindLiteral? text = some ('\n' :: (indent^[levels] code).toList)

/-- The text of the documentation between the quotes. -/
def pastedText (description : String) : List Char :=
  Text.stripChars Text.isBlank (softenQuotes description.toList)

/-- How many backslashes a text ends in. -/
def endingBackslashes (cs : List Char) : Nat := (cs.rtakeWhile (· == '\\')).length

/-- A text that ends in a backslash or a double quote that is not escaped. -/
def EndsOpen (cs : List Char) : Prop :=
  endingBackslashes cs % 2 = 1 ∨ cs.getLast? = some '"' ∧ endingBackslashes cs.dropLast % 2 = 0

instance (cs : List Char) : Decidable (EndsOpen cs) :=
  inferInstanceAs (Decidable (_ ∨ _))

/-! ## The text between the quotes -/

theorem softenQuotes_cons {c : Char} {cs : List Char} (other : ¬ quotes <+: c :: cs) :
    softenQuotes (c :: cs) = c :: softenQuotes cs :=
  Text.replaceSeq_cons other

theorem softenQuotes_quotes (cs : List Char) :
    softenQuotes (quotes ++ cs) = ['\'', '\'', '\''] ++ softenQuotes cs :=
  Text.replaceSeq_append (List.cons_ne_nil _ _) cs

/-- Softening goes on behind three quotes, or character by character. -/
theorem softenQuotes_induction {motive : List Char → Prop} (nil : motive [])
    (quoted : ∀ cs, motive cs → motive (quotes ++ cs))
    (cons : ∀ c cs, ¬ quotes <+: c :: cs → motive cs → motive (c :: cs)) (cs : List Char) : motive cs := by
  match cs with
  | [] => exact nil
  | c :: rest =>
    by_cases begins : quotes <+: c :: rest
    · obtain ⟨more, heq⟩ := begins
      have smaller : more.length < (c :: rest).length := by
        rw [← heq]
        simp only [quotes, List.length_append, List.length_cons]
        omega
      rw [← heq]
      exact quoted more (softenQuotes_induction nil quoted cons more)
    · exact cons c rest begins (softenQuotes_induction nil quoted cons rest)
termination_by cs.length
decreasing_by
  · exact smaller
  · exact Nat.lt_succ_self _

/-- A double quote that is left at the beginning was there. -/
theorem of_softenQuotes_quote {cs rest : List Char} (h : softenQuotes cs = '"' :: rest) :
    ∃ more, cs = '"' :: more ∧ softenQuotes more = rest := by
  cases cs using softenQuotes_induction with
  | nil => cases h
  | quoted cs =>
    rw [softenQuotes_quotes] at h
    cases h
  | cons c cs other =>
    rw [softenQuotes_cons other] at h
    cases h
    exact ⟨cs, rfl, rfl⟩

/-- No three double quotes in a row are left. -/
theorem quotes_not_infix_softenQuotes (cs : List Char) : ¬ quotes <:+: softenQuotes cs := by
  induction cs using softenQuotes_induction with
  | nil => decide
  | quoted cs ih =>
    rw [softenQuotes_quotes]
    intro occurs
    simp only [List.cons_append, List.nil_append, List.infix_cons_iff] at occurs
    rcases occurs with begins | begins | begins | within
    · cases (List.cons_prefix_cons.mp begins).1
    · cases (List.cons_prefix_cons.mp begins).1
    · cases (List.cons_prefix_cons.mp begins).1
    · exact ih within
  | cons c cs other ih =>
    rw [softenQuotes_cons other, List.infix_cons_iff]
    rintro (⟨rest, begins⟩ | within)
    · -- the quotes would have stood there before
      obtain ⟨rfl, second⟩ := List.cons.inj begins
      obtain ⟨more, rfl, third⟩ := of_softenQuotes_quote second.symm
      obtain ⟨more, rfl, _⟩ := of_softenQuotes_quote third
      exact other ⟨more, rfl⟩
    · exact ih within

theorem quotes_not_infix_pastedText (description : String) : ¬ quotes <:+: pastedText description :=
  fun occurs => quotes_not_infix_softenQuotes _ (occurs.trans (Text.stripChars_part _ _))

theorem toList_docstring {description : String} (described : description ≠ "") :
    (docstring (some description)).toList = quotes ++ (pastedText description ++ (quotes ++ ['\n'])) := by
  unfold docstring
  split
  · next absent => cases absent
  · next absent =>
    cases absent
    exact absurd rfl described
  · next s present =>
    cases present
    simp [Text.trim, pastedText, quotes]

/-! ## Where a literal ends -/

theorem behind?_cons {escaped : Bool} {c : Char} {cs : List Char}
    (goesOn : escaped = true ∨ ¬ quotes <+: c :: cs) :
    behind? escaped (c :: cs) = behind? (escapes escaped c) cs := by
  rw [behind?]
  rintro rest rfl rfl rfl
  rcases goesOn with escaped | other
  · cases escaped
  · exact other ⟨rest, rfl⟩

theorem behind?_quotes (cs : List Char) : behind? false (quotes ++ cs) = some cs := rfl

/-- A literal ends with three quotes. -/
theorem length_behind? {escaped : Bool} {cs rest : List Char} (h : behind? escaped cs = some rest) :
    rest.length + 3 ≤ cs.length := by
  fun_induction behind? escaped cs with
  | case1 more =>
    cases h
    simp
  | case2 escaped c more _ ih =>
    have := ih h
    simp only [List.length_cons]
    omega
  | case3 => cases h

/-- Whether a character is escaped that comes behind a text. -/
def escapedBehind (escaped : Bool) (cs : List Char) : Bool := cs.foldl escapes escaped

/-- A text that ends in a backslash or a double quote that is not escaped, when its first character may be escaped. -/
def OpenFrom (escaped : Bool) (cs : List Char) : Prop :=
  escapedBehind escaped cs = true ∨ cs.getLast? = some '"' ∧ escapedBehind escaped cs.dropLast = false

/-- The first character matters only for whether the second is escaped. -/
theorem openFrom_cons {escaped : Bool} {c : Char} {cs : List Char}
    (goesOn : escaped = true ∨ c ≠ '"' ∨ cs ≠ []) :
    OpenFrom escaped (c :: cs) ↔ OpenFrom (escapes escaped c) cs := by
  cases cs with
  | nil =>
    cases escaped with
    | true => simp [OpenFrom, escapedBehind, escapes]
    | false => simp_all [OpenFrom, escapedBehind, escapes]
  | cons d ds => simp [OpenFrom, escapedBehind, List.getLast?_cons_cons, List.dropLast_cons_cons]

/-- A text in which three quotes do not stand in a row is read up to the quotes behind it, unless it ends open. -/
theorem behind?_eq_some_iff {cs : List Char} (soft : ¬ quotes <:+: cs) (escaped : Bool) (rest : List Char) :
    behind? escaped (cs ++ (quotes ++ rest)) = some rest ↔ ¬ OpenFrom escaped cs := by
  induction cs generalizing escaped with
  | nil =>
    cases escaped with
    | false => simp [behind?_quotes, OpenFrom, escapedBehind]
    | true =>
      -- the first of the closing quotes is escaped, so that no three of them are left
      have short : behind? true (quotes ++ rest) ≠ some rest := by
        intro closed
        have left : behind? false ('"' :: '"' :: rest) = some rest := (behind?_cons (.inl rfl)).symm.trans closed
        have := length_behind? left
        simp only [List.length_cons] at this
        omega
      simp [short, OpenFrom, escapedBehind]
  | cons c cs ih =>
    have later := ih fun within => soft (List.infix_cons within)
    by_cases closes : escaped = false ∧ quotes <+: c :: (cs ++ (quotes ++ rest))
    · obtain ⟨rfl, more, begins⟩ := closes
      -- the literal ends too early: some of the quotes that end it belong to the text
      have early : behind? false (c :: cs ++ (quotes ++ rest)) = some more := by
        rw [List.cons_append, ← begins, behind?_quotes]
      have longer : more ≠ rest := by
        rintro rfl
        have lengths := congrArg List.length begins
        simp only [quotes, List.length_append, List.length_cons, List.length_nil] at lengths
        omega
      have isOpen : OpenFrom false (c :: cs) := by
        match cs, begins with
        | [], begins =>
          cases begins
          exact .inr ⟨rfl, rfl⟩
        | [d], begins =>
          cases begins
          exact .inr ⟨rfl, rfl⟩
        | d :: e :: ds, begins =>
          cases begins
          exact absurd ⟨[], ds, rfl⟩ soft
      rw [early]
      simp [longer, isOpen]
    · have goesOn : escaped = true ∨ ¬ quotes <+: c :: (cs ++ (quotes ++ rest)) := by
        rwa [not_and_or, Bool.not_eq_false] at closes
      have followed : escaped = true ∨ c ≠ '"' ∨ cs ≠ [] := by
        refine goesOn.imp_right fun other => ?_
        by_contra single
        push Not at single
        obtain ⟨rfl, rfl⟩ := single
        exact other ⟨_, rfl⟩
      rw [List.cons_append, behind?_cons goesOn, later, openFrom_cons followed]

/-- Behind a text a character is escaped when the text ends in an odd number of backslashes. -/
theorem escapedBehind_iff (cs : List Char) : escapedBehind false cs = true ↔ endingBackslashes cs % 2 = 1 := by
  induction cs using List.reverseRecOn with
  | nil => simp [escapedBehind, endingBackslashes]
  | append_singleton cs c ih =>
    rw [endingBackslashes] at ih
    rw [escapedBehind, List.foldl_append, List.foldl_cons, List.foldl_nil, ← escapedBehind, escapes,
      endingBackslashes, List.rtakeWhile_concat]
    by_cases backslash : c = '\\'
    · simp only [backslash, beq_self_eq_true, if_true, Bool.and_true, Bool.not_eq_true', List.length_append,
        List.length_singleton, ← Bool.not_eq_true, ih]
      omega
    · simp [backslash]

theorem openFrom_iff (cs : List Char) : OpenFrom false cs ↔ EndsOpen cs := by
  have even : ∀ ds, escapedBehind false ds = false ↔ endingBackslashes ds % 2 = 0 := by
    intro ds
    rw [← Bool.not_eq_true, escapedBehind_iff]
    omega
  rw [OpenFrom, EndsOpen, escapedBehind_iff, even]

/-! ## Indentation -/

/-- A text with a margin in front of each line that is not empty, where the text begins a line or goes on with
one. -/
def indentChars : (begins : Bool) → List Char → List Char
  | _, [] => []
  | begins, c :: cs => (if begins ∧ c ≠ '\n' then margin 1 else []) ++ c :: indentChars (c == '\n') cs

/-- A line with its margin. -/
def indentLine (line : List Char) : List Char := if line.isEmpty then [] else margin 1 ++ line

theorem indentChars_lineEnd (begins : Bool) (cs : List Char) :
    indentChars begins ('\n' :: cs) = '\n' :: indentChars true cs := by
  simp [indentChars]

theorem indentChars_other {c : Char} (other : c ≠ '\n') (begins : Bool) (cs : List Char) :
    indentChars begins (c :: cs) = (if begins then margin 1 else []) ++ c :: indentChars false cs := by
  have goesOn : (c == '\n') = false := beq_eq_false_iff_ne.mpr other
  simp [indentChars, other, goesOn]

/-- Indenting character by character indents each line but the first, and that one when the text begins with it. -/
theorem indentChars_split {cs line : List Char} {more : List (List Char)} (h : Text.split '\n' cs = line :: more) :
    indentChars false cs = ['\n'].intercalate (line :: more.map indentLine) ∧
      indentChars true cs = ['\n'].intercalate (indentLine line :: more.map indentLine) := by
  induction cs generalizing line more with
  | nil =>
    cases h
    exact ⟨rfl, rfl⟩
  | cons c cs ih =>
    rw [Text.split] at h
    cases lines : Text.split '\n' cs with
    | nil => exact absurd lines (Text.split_ne_nil _ _)
    | cons first others =>
      obtain ⟨going, beginning⟩ := ih lines
      rw [lines] at h
      split at h
      · next lineEnd =>
        cases h
        subst lineEnd
        simp [indentChars_lineEnd, beginning, indentLine, List.intercalate]
      · next other =>
        cases h
        cases more with
        | nil => simp_all [indentChars_other other, indentLine, List.intercalate]
        | cons second more => simp_all [indentChars_other other, indentLine, List.intercalate]

theorem toList_indent (s : String) : (indent s).toList = indentChars true s.toList := by
  have lines : ∀ line : List Char,
      (if line.isEmpty then "" else "    " ++ String.ofList line).toList = indentLine line := by
    intro line
    cases line with
    | nil => rfl
    | cons c cs => simp [indentLine, margin]
  cases parts : Text.split '\n' s.toList with
  | nil => exact absurd parts (Text.split_ne_nil _ _)
  | cons line more =>
    rw [(indentChars_split parts).2, indent, parts, String.toList_intercalate, List.map_map]
    simp only [Function.comp_def, lines]
    rfl

/-- A line end and another character do not begin the same indented texts: a margin stands before the other one or
nothing at all. -/
theorem indentChars_lineEnd_ne {c : Char} (other : c ≠ '\n') (begins : Bool) (cs ds : List Char) :
    indentChars begins ('\n' :: cs) ≠ indentChars begins (c :: ds) := by
  intro same
  rw [indentChars_lineEnd, indentChars_other other] at same
  cases begins with
  | false => exact other (List.cons.inj same).1.symm
  | true => exact absurd (List.cons.inj same).1 (by decide)

theorem indentChars_injective (begins : Bool) : Function.Injective (indentChars begins) := by
  intro cs ds same
  induction cs generalizing begins ds with
  | nil =>
    cases ds with
    | nil => rfl
    | cons d ds => simp [indentChars] at same
  | cons c cs ih =>
    cases ds with
    | nil => simp [indentChars] at same
    | cons d ds =>
      by_cases first : c = '\n' <;> by_cases second : d = '\n'
      · subst first second
        rw [indentChars_lineEnd, indentChars_lineEnd] at same
        rw [ih true (List.cons.inj same).2]
      · subst first
        exact absurd same (indentChars_lineEnd_ne second begins cs ds)
      · subst second
        exact absurd same.symm (indentChars_lineEnd_ne first begins ds cs)
      · rw [indentChars_other first, indentChars_other second] at same
        obtain ⟨rfl, rest⟩ := List.cons.inj (List.append_cancel_left same)
        rw [ih false rest]

/-- Spaces in front of a character belong to its line. -/
theorem indentChars_spaces {c : Char} (other : c ≠ '\n') (begins : Bool) (spaces : Nat) (cs : List Char) :
    indentChars begins (List.replicate spaces ' ' ++ c :: cs) =
      (if begins then margin 1 else []) ++ (List.replicate spaces ' ' ++ c :: indentChars false cs) := by
  have space : ' ' ≠ '\n' := by decide
  induction spaces generalizing begins with
  | zero => exact indentChars_other other begins cs
  | succ spaces ih =>
    rw [List.replicate_succ, List.cons_append, indentChars_other space, ih false]
    rfl

/-- Each level adds its margin to the first line. -/
theorem iterate_indentChars_true {c : Char} (other : c ≠ '\n') (levels : Nat) (cs : List Char) :
    (indentChars true)^[levels] (c :: cs) = margin levels ++ c :: (indentChars false)^[levels] cs := by
  induction levels with
  | zero => rfl
  | succ levels ih =>
    have next : margin 1 ++ margin levels = margin (levels + 1) := by
      rw [margin, margin, margin, List.replicate_append_replicate]
      congr 1
      omega
    rw [Function.iterate_succ_apply', ih, Function.iterate_succ_apply', ← next, margin, margin,
      indentChars_spaces other, List.append_assoc]
    rfl

/-! ## Literals that are indented -/

theorem behind?_margin (levels : Nat) (cs : List Char) : behind? false (margin levels ++ cs) = behind? false cs := by
  rw [margin]
  induction 4 * levels with
  | zero => rfl
  | succ spaces ih =>
    have space : ¬ quotes <+: ' ' :: (List.replicate spaces ' ' ++ cs) := by simp [quotes]
    rw [List.replicate_succ, List.cons_append, behind?_cons (.inr space)]
    exact ih

/-- A double quote in a line was there before the indentation. -/
theorem of_indentChars_quote {cs rest : List Char} (h : indentChars false cs = '"' :: rest) :
    ∃ more, cs = '"' :: more ∧ indentChars false more = rest := by
  cases cs with
  | nil => cases h
  | cons c cs =>
    obtain ⟨rfl, tail⟩ := List.cons.inj h
    exact ⟨cs, rfl, tail⟩

/-- Indentation does not change where a literal ends: no backslash takes a part of a margin. -/
theorem behind?_indentChars {escaped begins : Bool} (h : escaped = false ∨ begins = false) (cs : List Char) :
    behind? escaped (indentChars begins cs) = (behind? escaped cs).map (indentChars false) := by
  induction cs generalizing escaped begins with
  | nil => cases escaped <;> rfl
  | cons c cs ih =>
    have unmargined : ∀ rest,
        behind? escaped ((if begins then margin 1 else []) ++ rest) = behind? escaped rest := by
      intro rest
      rcases h with rfl | rfl
      · cases begins with
        | false => rfl
        | true => exact behind?_margin 1 rest
      · rfl
    by_cases closes : escaped = false ∧ quotes <+: c :: cs
    · obtain ⟨rfl, rest, heq⟩ := closes
      cases heq
      rw [indentChars_other (by decide), unmargined]
      rfl
    · have goesOn : escaped = true ∨ ¬ quotes <+: c :: cs := by
        rwa [not_and_or, Bool.not_eq_false] at closes
      have indented : escaped = true ∨ ¬ quotes <+: c :: indentChars (c == '\n') cs := by
        refine goesOn.imp_right fun other ⟨rest, heq⟩ => ?_
        obtain ⟨rfl, second⟩ := List.cons.inj heq
        obtain ⟨more, rfl, third⟩ := of_indentChars_quote second.symm
        obtain ⟨more, rfl, _⟩ := of_indentChars_quote third
        exact other ⟨more, rfl⟩
      rw [behind?_cons goesOn]
      by_cases lineEnd : c = '\n'
      · subst lineEnd
        rw [beq_self_eq_true] at indented
        rw [indentChars_lineEnd, behind?_cons indented]
        exact ih (.inl (by simp [escapes]))
      · rw [indentChars_other lineEnd, unmargined]
        rw [beq_eq_false_iff_ne.mpr lineEnd] at indented
        rw [behind?_cons indented]
        exact ih (.inr rfl)

theorem behind?_iterate_indentChars (levels : Nat) (cs : List Char) :
    behind? false ((indentChars false)^[levels] cs) = (behind? false cs).map (indentChars false)^[levels] := by
  induction levels with
  | zero => simp
  | succ levels ih =>
    rw [Function.iterate_succ_apply', behind?_indentChars (.inl rfl), ih, Option.map_map, Function.iterate_succ']

theorem toList_iterate_indent (levels : Nat) (s : String) :
    (indent^[levels] s).toList = (indentChars true)^[levels] s.toList :=
  (Function.Semiconj.iterate_right (f := String.toList) toList_indent levels) s

theorem iterate_indentChars_lineEnd (levels : Nat) (cs : List Char) :
    (indentChars false)^[levels] ('\n' :: cs) = '\n' :: (indentChars true)^[levels] cs :=
  (Function.Semiconj.iterate_right (f := ('\n' :: ·)) (fun cs => (indentChars_lineEnd false cs).symm) levels cs).symm

theorem iterate_indentChars_other {c : Char} (other : c ≠ '\n') (levels : Nat) (cs : List Char) :
    (indentChars false)^[levels] (c :: cs) = c :: (indentChars false)^[levels] cs :=
  (Function.Semiconj.iterate_right (f := (c :: ·)) (fun cs => (indentChars_other other false cs).symm) levels cs).symm

/-! ## Which documentation is one literal -/

theorem toList_iterate_indent_docstring {description : String} (described : description ≠ "") (levels : Nat)
    (code : String) :
    (indent^[levels] (docstring (some description) ++ code)).toList = margin levels ++
      (quotes ++ (indentChars false)^[levels] (pastedText description ++ (quotes ++ '\n' :: code.toList))) := by
  have other : '"' ≠ '\n' := by decide
  have written : (docstring (some description) ++ code).toList =
      '"' :: '"' :: '"' :: (pastedText description ++ (quotes ++ '\n' :: code.toList)) := by
    simp [String.toList_append, toList_docstring described, quotes]
  rw [toList_iterate_indent, written, iterate_indentChars_true other, iterate_indentChars_other other,
    iterate_indentChars_other other]
  rfl

/-- The margin and the opening quotes come off, and no level of indentation matters. -/
theorem isWholeLiteral_iff {description : String} (described : description ≠ "") (levels : Nat) (code : String) :
    IsWholeLiteral levels description code ↔
      behind? false (pastedText description ++ (quotes ++ '\n' :: code.toList)) = some ('\n' :: code.toList) := by
  have injective : Function.Injective (Option.map (indentChars false)^[levels]) :=
    Option.map_injective ((indentChars_injective false).iterate levels)
  have literal : ∀ cs, behindLiteral? (quotes ++ (indentChars false)^[levels] cs) =
      (behind? false cs).map (indentChars false)^[levels] :=
    behind?_iterate_indentChars levels
  have code : '\n' :: (indent^[levels] code).toList = (indentChars false)^[levels] ('\n' :: code.toList) := by
    rw [iterate_indentChars_lineEnd, toList_iterate_indent]
  simp only [IsWholeLiteral, toList_iterate_indent_docstring described, List.append_cancel_left_eq, exists_eq_left',
    literal, code]
  rw [← Option.map_some, injective.eq_iff]

/-- Documentation is pasted as one literal exactly when its text does not end in a backslash or a double quote that
is not escaped, at every level of indentation and in front of all code. -/
theorem docstring_wholeLiteral_iff {description : String} (described : description ≠ "") (levels : Nat)
    (code : String) : IsWholeLiteral levels description code ↔ ¬ EndsOpen (pastedText description) := by
  rw [isWholeLiteral_iff described, behind?_eq_some_iff (quotes_not_infix_pastedText description), openFrom_iff]

theorem docstring_wholeLiteral_iff_pet :
    "Pets by \"id\"." ≠ "" ∧ (IsWholeLiteral 2 "Pets by \"id\"." "pass" ↔ ¬ EndsOpen (pastedText "Pets by \"id\"."))
      ∧ ¬ EndsOpen (pastedText "Pets by \"id\".") :=
  ⟨by decide, docstring_wholeLiteral_iff (by decide) 2 "pass", by decide⟩

/-- All documentation is pasted as one literal. -/
def EveryDocstringWhole : Prop :=
  ∀ description, description ≠ "" → ∀ levels code, IsWholeLiteral levels description code

/-- A summary that ends in a quoted word closes its literal one character early. -/
theorem not_everyDocstringWhole : ¬ EveryDocstringWhole := by
  intro every
  have whole := every "say \"hi\"" (by decide) 0 ""
  rw [isWholeLiteral_iff (by decide)] at whole
  have early : behind? false (pastedText "say \"hi\"" ++ (quotes ++ '\n' :: "".toList)) = some ['"', '\n'] := by decide
  rw [early] at whole
  cases whole

end Source

end TypedClient
