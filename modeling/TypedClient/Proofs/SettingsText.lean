import TypedClient.Proofs.Fields
import TypedClient.Proofs.Outcome
import TypedClient.Toml.Writer

/-!
# What a settings text is made of

A tab in a file becomes blanks when the file is rendered, and a carriage return becomes a line end when it is read
again. A settings text has neither: in its texts they are written as escapes, and nothing else that is written has
them.

**What is proved.** `write_yields`: the text of a table is clean, and where a table cannot be written the fault is
none of those that the command line reports.

Each part of the writer has a lemma that says both, since the writer is gone through only once.
-/

namespace TypedClient

/-! ## Faults that are not reported -/

/-- A fault that the command line leaves as it is. -/
def Fault.IsUnreported (fault : Fault) : Prop := fault.isReported = false

theorem items_unreported (v : Value) : FailsOnly Fault.IsUnreported (Links.none.items v) := by
  unfold Links.items
  refine FailsOnly.bind ?_ fun w => ?_
  · cases v <;> first | exact failsOnly_ok _ | exact failsOnly_error rfl
  · split
    · exact failsOnly_ok _
    · exact failsOnly_ok _
    · exact failsOnly_ok _
    · exact failsOnly_error rfl

theorem shown_unreported (v : Value) : FailsOnly Fault.IsUnreported v.shown := by
  unfold Value.shown
  split
  · split
    · exact failsOnly_ok _
    · exact failsOnly_error rfl
  · split
    · exact failsOnly_ok _
    · exact failsOnly_error rfl

namespace Toml

/-- Characters among which there is no tab and no carriage return. -/
def IsClean (cs : List Char) : Prop := ∀ c ∈ cs, c ≠ '\t' ∧ c ≠ '\r'

instance (cs : List Char) : Decidable (IsClean cs) := List.decidableBAll (fun c => c ≠ '\t' ∧ c ≠ '\r') cs

/-! ## Clean characters -/

@[simp] theorem isClean_nil : IsClean [] := fun _ h => (nomatch h)

@[simp] theorem isClean_cons {c : Char} {cs : List Char} :
    IsClean (c :: cs) ↔ (c ≠ '\t' ∧ c ≠ '\r') ∧ IsClean cs :=
  List.forall_mem_cons

@[simp] theorem isClean_append {cs ds : List Char} : IsClean (cs ++ ds) ↔ IsClean cs ∧ IsClean ds :=
  List.forall_mem_append

theorem IsClean.of_subset {cs ds : List Char} (h : IsClean ds) (sub : ∀ c ∈ cs, c ∈ ds) : IsClean cs :=
  fun c hc => h c (sub c hc)

theorem isClean_flatMap {α : Type} {f : α → List Char} {xs : List α} (h : ∀ x ∈ xs, IsClean (f x)) :
    IsClean (xs.flatMap f) := by
  intro c hc
  obtain ⟨x, hx, hc⟩ := List.mem_flatMap.mp hc
  exact h x hx c hc

theorem isClean_intercalate {sep : List Char} {parts : List (List Char)} (hsep : IsClean sep)
    (h : ∀ part ∈ parts, IsClean part) : IsClean (sep.intercalate parts) := by
  induction parts with
  | nil => exact isClean_nil
  | cons part rest ih =>
    obtain ⟨first, later⟩ := List.forall_mem_cons.mp h
    cases rest with
    | nil => simpa using first
    | cons next rest =>
      rw [List.intercalate_cons_cons, isClean_append, isClean_append]
      exact ⟨⟨first, hsep⟩, ih later⟩

theorem isClean_join {texts : List String} (h : ∀ s ∈ texts, IsClean s.toList) :
    IsClean (String.join texts).toList := by
  rw [String.toList_join]
  exact isClean_flatMap h

/-- The parts of a text have no other characters than the text. -/
theorem mem_of_mem_splitSeqFrom (sep : List Char) (skip : Nat) (cs : List Char) :
    ∀ part ∈ Text.splitSeqFrom sep skip cs, ∀ c ∈ part, c ∈ cs := by
  fun_induction Text.splitSeqFrom sep skip cs with
  | case1 => simp
  | case2 skip d cs ih =>
    exact fun part hp c hc => List.mem_cons_of_mem _ (ih part hp c hc)
  | case3 d cs _ ih =>
    intro part hp c hc
    rcases List.mem_cons.mp hp with rfl | hp
    · cases hc
    · exact List.mem_cons_of_mem _ (ih part hp c hc)
  | case4 d cs _ ih =>
    intro part hp c hc
    cases parts : Text.splitSeqFrom sep 0 cs with
    | nil =>
      rw [parts] at hp
      cases List.mem_singleton.mp hp
      exact List.mem_cons.mpr (.inl (List.mem_singleton.mp hc))
    | cons first rest =>
      rw [parts] at hp ih
      rcases List.mem_cons.mp hp with rfl | hp
      · rcases List.mem_cons.mp hc with rfl | hc
        · exact List.mem_cons_self
        · exact List.mem_cons_of_mem _ (ih first List.mem_cons_self c hc)
      · exact List.mem_cons_of_mem _ (ih part (List.mem_cons_of_mem _ hp) c hc)

theorem isClean_splitSeq {sep cs : List Char} (h : IsClean cs) : ∀ part ∈ Text.splitSeq sep cs, IsClean part :=
  fun part hp => h.of_subset (mem_of_mem_splitSeqFrom sep 0 cs part hp)

theorem isClean_replaceSeq {old new cs : List Char} (hnew : IsClean new) (h : IsClean cs) :
    IsClean (Text.replaceSeq old new cs) :=
  isClean_intercalate hnew (isClean_splitSeq h)

/-! ## Numbers and moments -/

theorem isClean_digitChar : ∀ n < 16, IsClean [Nat.digitChar n] := by decide

theorem isClean_toDigits {base : Nat} (h : 1 < base) (known : base ≤ 16) (n : Nat) :
    IsClean (Nat.toDigits base n) := by
  induction n using Nat.strongRecOn with
  | ind n ih =>
    rw [Nat.toDigits_eq_if h]
    split
    · exact isClean_digitChar n (by omega)
    · have smaller : n / base < n := Nat.div_lt_self (by omega) h
      have digit : n % base < base := Nat.mod_lt n (by omega)
      exact isClean_append.mpr ⟨ih _ smaller, isClean_digitChar _ (by omega)⟩

@[simp] theorem isClean_decimal (n : Nat) : IsClean (Nat.toDigits 10 n) :=
  isClean_toDigits (by decide) (by decide) n

@[simp] theorem isClean_integer (n : Int) : IsClean (toString n).toList := by
  cases n with
  | ofNat n =>
    show IsClean (toString n).toList
    simp
  | negSucc n =>
    show IsClean ("-" ++ toString (n + 1)).toList
    simp

@[simp] theorem isClean_zeros (n : Nat) : IsClean (List.replicate n '0') := by
  intro c hc
  cases List.eq_of_mem_replicate hc
  decide

theorem isClean_decimalText (digits : Nat) (place : Int) : IsClean (Binary64.decimalText digits place).toList := by
  have front : ∀ n, IsClean ((Nat.toDigits 10 digits).take n) :=
    fun n => (isClean_decimal digits).of_subset fun _ => List.mem_of_mem_take
  have back : ∀ n, IsClean ((Nat.toDigits 10 digits).drop n) :=
    fun n => (isClean_decimal digits).of_subset fun _ => List.mem_of_mem_drop
  have rest : IsClean (Nat.toDigits 10 digits).tail := List.drop_one ▸ back 1
  unfold Binary64.decimalText
  dsimp only
  split_ifs <;> simp [front, back, rest]

theorem isClean_float (x : Binary64) : IsClean x.text.toList := by
  cases x with
  | nan => decide
  | infinity negative => cases negative <;> decide
  | finite negative m e =>
    unfold Binary64.text
    dsimp only
    split_ifs <;> simp [isClean_decimalText]

theorem isClean_padded (width n : Nat) : IsClean (padded width n).toList := by
  simp [padded]

theorem isClean_date (d : Date) : IsClean d.text.toList := by
  simp [Date.text, isClean_padded]

theorem isClean_time (t : TimeOfDay) : IsClean t.text.toList := by
  unfold TimeOfDay.text
  split_ifs <;> simp [isClean_padded]

theorem isClean_offset (minutes : Int) : IsClean (offsetText minutes).toList := by
  unfold offsetText
  split_ifs <;> simp [isClean_padded]

theorem isClean_moment (m : Moment) : IsClean m.storedText.toList := by
  cases m with
  | date d => exact isClean_date d
  | time t => exact isClean_time t
  | both d t offset =>
    cases offset with
    | none => simp [Moment.storedText, isClean_date, isClean_time]
    | some minutes =>
      simp only [Moment.storedText]
      split_ifs <;> simp [isClean_date, isClean_time, isClean_offset]

/-! ## Texts and names -/

theorem isClean_escapeCodePoint (c : Char) : IsClean (Text.escapeCodePoint c) := by
  have digits : ∀ n, IsClean (Nat.toDigits 16 n) := isClean_toDigits (by decide) (by decide)
  unfold Text.escapeCodePoint
  dsimp only
  split_ifs <;> simp [Text.hexDigits, digits]

theorem isClean_escapeChar {mark : Char} (h : IsClean [mark]) (c : Char) : IsClean (Text.escapeChar mark c) := by
  unfold Text.escapeChar
  split_ifs with special newline carriage tab printable
  · rcases special with rfl | rfl
    · simpa using h
    · decide
  · decide
  · decide
  · decide
  · simp [carriage, tab]
  · exact isClean_escapeCodePoint c

theorem isClean_textQuote (s : String) : IsClean (Text.quote s).toList := by
  have mark : IsClean [Text.quoteMark s.toList] := by
    unfold Text.quoteMark
    split <;> decide
  have escaped : IsClean (s.toList.flatMap (Text.escapeChar (Text.quoteMark s.toList))) :=
    isClean_flatMap fun c _ => isClean_escapeChar mark c
  rw [Text.quote, String.toList_ofList, ← List.singleton_append, isClean_append, isClean_append]
  exact ⟨⟨mark, escaped⟩, mark⟩

theorem isClean_escapeJoiner (before : List Char) : IsClean (escapeJoiner before) := by
  unfold escapeJoiner
  dsimp only
  split_ifs <;> decide

theorem isClean_mendEscapes {fuel : Nat} {pieces : List (List Char)} (h : ∀ piece ∈ pieces, IsClean piece)
    {cs : List Char} (mended : mendEscapes fuel pieces = some cs) : IsClean cs := by
  fun_induction mendEscapes fuel pieces with
  | case1 => cases mended
  | case2 =>
    cases mended
    exact isClean_nil
  | case3 =>
    cases mended
    exact h _ List.mem_cons_self
  | case4 =>
    cases mended
    exact isClean_nil
  | case5 => cases mended
  | case6 fuel front rest _ first next others filled whole ih =>
    have clean : ∀ piece ∈ first :: next :: others, IsClean piece := by
      intro piece hp
      rw [← filled] at hp
      split at hp
      · exact h piece (List.mem_cons_of_mem _ hp)
      · exact h piece hp
    obtain ⟨hfirst, later⟩ := List.forall_mem_cons.mp clean
    obtain ⟨hnext, hothers⟩ := List.forall_mem_cons.mp later
    have hwhole : IsClean whole := isClean_replaceSeq (by decide) hfirst
    refine ih (List.forall_mem_cons.mpr ⟨?_, hothers⟩) mended
    simp [hwhole, hnext, isClean_escapeJoiner]

/-- What comes of writing: a clean text, or a fault that is not reported. -/
abbrev WritesText (x : Except Fault String) : Prop :=
  Yields (fun s => IsClean s.toList) Fault.IsUnreported x

/-- What comes of writing several texts. -/
abbrev WritesTexts (x : Except Fault (List String)) : Prop :=
  Yields (fun texts => ∀ s ∈ texts, IsClean s.toList) Fault.IsUnreported x

theorem quote_yields (s : String) : WritesText (quote s) := by
  have literal := isClean_textQuote s
  have body : IsClean ((Text.quote s).toList.drop 1).dropLast :=
    literal.of_subset fun c hc => List.mem_of_mem_drop ((List.dropLast_sublist _).mem hc)
  unfold quote
  dsimp only
  split
  · next cs mended =>
    refine yields_ok ?_
    have clean : IsClean cs := by
      refine isClean_mendEscapes (isClean_splitSeq ?_) mended
      split
      · exact isClean_replaceSeq (by decide) (isClean_replaceSeq (by decide) body)
      · exact body
    simp [clean]
  · exact yields_error rfl

theorem isClean_of_isBareName {cs : List Char} (h : isBareName cs = true) : IsClean cs := by
  have bare : ∀ {c}, isBareChar c = true → c ≠ '\t' ∧ c ≠ '\r' := by
    intro c hc
    constructor <;> rintro rfl <;> exact absurd hc (by decide)
  have body : ∀ ds : List Char, (!ds.isEmpty && ds.all isBareChar) = true → IsClean ds := by
    intro ds hds c hc
    exact bare (List.all_eq_true.mp (Bool.and_eq_true_iff.mp hds).2 c hc)
  have reversed : IsClean cs.reverse := by
    unfold isBareName at h
    split at h
    · next rest back =>
      rw [back]
      exact isClean_cons.mpr ⟨by decide, body rest h⟩
    · exact body _ h
  exact fun c hc => reversed c (List.mem_reverse.mpr hc)

theorem writeName_yields (name : String) : WritesText (writeName name) := by
  unfold writeName
  split
  · next bare => exact yields_ok (isClean_of_isBareName bare)
  · exact quote_yields name

/-! ## Values -/

theorem isClean_floatText (x : Binary64) : IsClean (floatText x).toList := by
  rw [floatText, String.toList_ofList]
  exact isClean_replaceSeq (by decide) (isClean_replaceSeq (by decide) (isClean_float x))

theorem isClean_bracket {items : List String} (h : ∀ s ∈ items, IsClean s.toList) :
    IsClean (bracket items).toList := by
  have each : IsClean (String.join (items.map fun s => " " ++ s ++ ",")).toList := by
    refine isClean_join (List.forall_mem_map.mpr fun s hs => ?_)
    simp [h s hs]
  rw [bracket, String.toList_append, String.toList_append, isClean_append, isClean_append]
  exact ⟨⟨by decide, each⟩, by decide⟩

theorem names_yields (fields : Fields Value) :
    WritesText ((fields.mapM fun f => quote f.1).map bracket) := by
  have each : WritesTexts (fields.mapM fun f => quote f.1) := Yields.mapM fun f _ => quote_yields f.1
  exact each.map fun texts h => isClean_bracket h

mutual
/-- A value is written clean. -/
theorem writeValue_yields (v : Value) : WritesText (writeValue v) := by
  cases v with
  | null => exact quote_yields "None"
  | bool b => exact yields_ok (by cases b <;> decide)
  | int n =>
    rw [writeValue]
    split
    · exact yields_ok (isClean_integer n)
    · exact yields_error rfl
  | float x => exact yields_ok (isClean_floatText x)
  | str s => exact quote_yields s
  | moment m =>
    rw [writeValue]
    split
    · exact yields_ok (isClean_moment m)
    · exact yields_error rfl
  | list items => exact (writeItems_yields items).map fun texts h => isClean_bracket h
  | object fields => exact names_yields fields
  | link place target fields => exact names_yields fields
termination_by structural v
theorem writeItems_yields (items : List Value) : WritesTexts (writeItems items) := by
  cases items with
  | nil => exact yields_ok fun _ h => (nomatch h)
  | cons v rest =>
    rw [writeItems]
    refine (writeValue_yields v).bind fun s hs => (writeItems_yields rest).bind fun texts htexts => ?_
    exact yields_ok (List.forall_mem_cons.mpr ⟨hs, htexts⟩)
termination_by structural items
end

/-! ## Tables -/

/-- Things under clean names. -/
def CleanNames {α : Type} (fs : Fields α) : Prop := ∀ f ∈ fs, IsClean f.1.toList

/-- A table is written clean: its lines, and the names of its subtables. -/
structure Section.Clean (s : Section) : Prop where
  lines : IsClean s.lines.toList
  tables : CleanNames s.tables

/-- A way of writing tables under names, clean under clean names. -/
def WritesTables (write : Fields Value → String → Except Fault Section) : Prop :=
  ∀ fields name, IsClean name.toList → Yields Section.Clean Fault.IsUnreported (write fields name)

theorem cleanNames_ofPairs {α : Type} {pairs : List (String × α)} (h : CleanNames pairs) :
    CleanNames (Fields.ofPairs pairs) := by
  intro f hf
  have named : f.1 ∈ (Fields.putAll [] pairs).names := List.mem_map_of_mem hf
  rcases Fields.mem_names_putAll.mp named with none | stated
  · cases none
  · obtain ⟨p, hp, same⟩ := List.mem_map.mp stated
    exact same ▸ h p hp

/-- The subtables of tables, under the names of both. -/
theorem cleanNames_inner {α : Type} {name : String} {tables : Fields α} (hname : IsClean name.toList)
    (h : CleanNames tables) : CleanNames (tables.map fun inner => (name ++ "." ++ inner.1, inner.2)) := by
  refine List.forall_mem_map.mpr fun inner hinner => ?_
  simp [hname, h inner hinner]

theorem isClean_qualify {parent name : String} (hparent : IsClean parent.toList) (hname : IsClean name.toList) :
    IsClean (qualify parent name).toList := by
  unfold qualify
  split_ifs <;> simp [hparent, hname]

section

variable {write : Fields Value → String → Except Fault Section} (writes : WritesTables write)
include writes

theorem writeInner_yields {parent : String} (hparent : IsClean parent.toList) (fuel : Nat)
    (tables : Fields (Fields Value)) (h : CleanNames tables) : WritesText (writeInner write parent fuel tables) := by
  induction fuel generalizing tables with
  | zero => exact yields_ok isClean_nil
  | succ fuel ih =>
    cases tables with
    | nil => exact yields_ok isClean_nil
    | cons t rest =>
      rw [writeInner]
      swap
      · exact List.cons_ne_nil t rest
      refine Yields.bind (?_ : Yields (fun written => ∀ w ∈ written, IsClean w.1.toList ∧ CleanNames w.2) _ _) ?_
      · refine Yields.mapM fun t ht => ?_
        have name : IsClean (qualify parent t.1).toList := isClean_qualify hparent (h t ht)
        refine (writes t.2 _ name).bind fun s hs => yields_ok ⟨?_, cleanNames_inner (h t ht) hs.tables⟩
        dsimp only
        split
        · exact isClean_nil
        · simp [name, hs.lines]
      · intro written each
        have inner : CleanNames (written.flatMap (·.2)) := by
          intro f hf
          obtain ⟨w, hw, hf⟩ := List.mem_flatMap.mp hf
          exact (each w hw).2 f hf
        refine (ih _ (cleanNames_ofPairs inner)).bind fun deeper hdeeper => yields_ok ?_
        have lines : IsClean (String.join (written.map (·.1))).toList :=
          isClean_join (List.forall_mem_map.mpr fun w hw => (each w hw).1)
        rw [String.toList_append]
        exact isClean_append.mpr ⟨lines, hdeeper⟩

theorem writeTableArray_yields {name : String} (hname : IsClean name.toList) (fuel : Nat) (items : List Value) :
    WritesText (writeTableArray write fuel name items) := by
  have header : IsClean ("[[" ++ name ++ "]]\n").toList := by simp [hname]
  unfold writeTableArray
  refine Yields.bind (?_ : WritesTexts _) fun parts h => yields_ok (isClean_join h)
  refine Yields.mapM fun v hv => ?_
  clear hv
  split
  · next fields =>
    refine (writes fields name hname).bind fun s hs => ?_
    refine (writeInner_yields writes hname fuel _ hs.tables).bind fun inner hinner => ?_
    dsimp only
    split
    · exact yields_ok (by simp [hname, hs.lines, hinner])
    · exact yields_ok (by simp [hname, hs.lines, hinner])
  · refine (items_unreported v).yields.bind fun vs _ => ?_
    split
    · exact yields_ok (by simp [hname])
    · refine (shown_unreported _).yields.bind fun s _ => ?_
      exact (writeName_yields s).bind fun _ _ => yields_error rfl

end

theorem writeTable_yields (depth : Nat) : WritesTables (writeTable depth) := by
  induction depth with
  | zero => exact fun _ _ _ => yields_ok ⟨isClean_nil, fun _ h => (nomatch h)⟩
  | succ depth ih =>
    intro fields name hname
    rw [writeTable]
    refine Yields.bind (?_ : Yields (fun parts => ∀ p ∈ parts,
      IsClean p.1.1.toList ∧ IsClean p.1.2.toList ∧ CleanNames p.2) _ _) ?_
    · refine Yields.mapM fun f _ => ?_
      refine (writeName_yields f.1).bind fun key hkey => ?_
      have entry : ∀ v, Yields (fun p => IsClean p.1.1.toList ∧ IsClean p.1.2.toList ∧ CleanNames p.2)
          Fault.IsUnreported (do return ((key ++ " = " ++ (← writeValue v) ++ "\n", ""), ([] : Fields (Fields Value)))) := by
        intro v
        refine (writeValue_yields v).bind fun text htext => yields_ok ⟨?_, isClean_nil, fun _ h => (nomatch h)⟩
        simp [hkey, htext]
      split
      · refine yields_ok ⟨isClean_nil, isClean_nil, ?_⟩
        exact fun t ht => (List.mem_singleton.mp ht) ▸ hkey
      · exact yields_ok ⟨isClean_nil, isClean_nil, fun _ h => (nomatch h)⟩
      · next items _ =>
        split
        · refine (writeTableArray_yields ih (isClean_qualify hname hkey) (depth + 1) items).bind fun text htext => ?_
          exact yields_ok ⟨isClean_nil, htext, fun _ h => (nomatch h)⟩
        · exact entry (.list items)
      · exact entry f.2
    · intro parts each
      have first : IsClean (String.join (parts.map (·.1.1))).toList :=
        isClean_join (List.forall_mem_map.mpr fun p hp => (each p hp).1)
      have arrays : IsClean (String.join (parts.map (·.1.2))).toList :=
        isClean_join (List.forall_mem_map.mpr fun p hp => (each p hp).2.1)
      refine yields_ok ⟨?_, cleanNames_ofPairs fun t ht => ?_⟩
      · rw [String.toList_append]
        exact isClean_append.mpr ⟨first, arrays⟩
      · obtain ⟨p, hp, ht⟩ := List.mem_flatMap.mp ht
        exact (each p hp).2.2 t ht

/-! ## Texts -/

theorem isClean_appendSection {text name : String} {s : Section} (htext : IsClean text.toList)
    (hname : IsClean name.toList) (hs : s.Clean) : IsClean (appendSection text name s).toList := by
  unfold appendSection
  dsimp only
  split_ifs <;> simp [htext, hname, hs.lines]

theorem appendSections_yields (depth fuel : Nat) (text : String) (tables : Fields (Fields Value))
    (htext : IsClean text.toList) (h : CleanNames tables) : WritesText (appendSections depth fuel text tables) := by
  induction fuel generalizing text tables with
  | zero => exact yields_ok htext
  | succ fuel ih =>
    cases tables with
    | nil => exact yields_ok htext
    | cons t rest =>
      rw [appendSections]
      swap
      · exact List.cons_ne_nil t rest
      refine Yields.bind (?_ : Yields (fun written => IsClean written.1.toList ∧ CleanNames written.2) _ _) ?_
      · refine Yields.foldlM ⟨htext, fun _ h => (nomatch h)⟩ fun written t ht hwritten => ?_
        refine (writeTable_yields depth t.2 t.1 (h t ht)).bind fun s hs => yields_ok ⟨?_, ?_⟩
        · exact isClean_appendSection hwritten.1 (h t ht) hs
        · exact List.forall_mem_append.mpr ⟨hwritten.2, cleanNames_inner (h t ht) hs.tables⟩
      · exact fun written hwritten => ih _ _ hwritten.1 (cleanNames_ofPairs hwritten.2)

/-- **What is written of a table** is a clean text, and a table that cannot be written fails with no fault that is
reported. -/
theorem write_yields (table : Fields Value) : WritesText (write table) := by
  unfold write
  refine (writeTable_yields _ table "" isClean_nil).bind fun s hs => ?_
  exact appendSections_yields _ _ s.lines s.tables hs.lines hs.tables

end Toml

end TypedClient
