import TypedClient.Proofs.ClassNames
import TypedClient.Proofs.CleanNames
import TypedClient.Proofs.FileText

/-!
# Legal class names

A class name is a text that is valid already, or it is made of the ASCII words of a text. Such a name begins with a
capital, so a digit in front and the three reserved words that are capitalised are all that can be wrong with it, and
with what `Model` does to these nothing is.

**What is proved.** `isValidName_className`: the name of a class is valid, whatever it is made of.
`isValidName_models`: so are the names of the model classes of a description, those that are renamed because an
enumeration has their name among them.
-/

namespace TypedClient

open Text

/-! ## Joined words -/

theorem mem_split {sep : Char} {cs part : List Char} (h : part ∈ split sep cs) : ∀ c ∈ part, c ∈ cs ∧ c ≠ sep := by
  induction cs generalizing part with
  | nil =>
    intro c member
    rw [List.mem_singleton.mp h] at member
    cases member
  | cons d rest ih =>
    intro c member
    rw [split] at h
    split at h
    · rcases List.mem_cons.mp h with rfl | h
      · cases member
      · exact (ih h c member).imp_left (List.mem_cons_of_mem _)
    · next other =>
      cases parts : split sep rest with
      | nil => exact absurd parts (split_ne_nil sep rest)
      | cons first more =>
        rw [parts] at h ih
        rcases List.mem_cons.mp h with rfl | h
        · rcases List.mem_cons.mp member with rfl | member
          · exact ⟨List.mem_cons_self, other⟩
          · exact (ih List.mem_cons_self c member).imp_left (List.mem_cons_of_mem _)
        · exact (ih (List.mem_cons_of_mem _ h) c member).imp_left (List.mem_cons_of_mem _)

theorem isAlphanum_toUpper {c : Char} (plain : c.isAlphanum = true) : c.toUpper.isAlphanum = true := by
  have all : ∀ n ∈ List.range 128, (Char.ofNat n).isAlphanum = true → (Char.ofNat n).toUpper.isAlphanum = true := by
    decide +kernel
  have below : c.toNat ∈ List.range 128 := List.mem_range.mpr (UInt32.lt_iff_toNat_lt.mp (ascii_of_isAlphanum plain))
  simpa only [Char.ofNat_toNat, plain, true_imp_iff] using all _ below

/-- A capitalised ASCII word is one. -/
theorem isAlphanum_capitalize {word : String} (plain : ∀ c ∈ word.toList, c.isAlphanum = true) :
    ∀ c ∈ (capitalize word).toList, c.isAlphanum = true := by
  unfold capitalize
  cases chars : word.toList with
  | nil => exact nofun
  | cons first rest =>
    rw [chars] at plain
    obtain ⟨plain, later⟩ := List.forall_mem_cons.mp plain
    rw [String.toList_ofList, upperChar_of_ascii (ascii_of_isAlphanum plain), List.singleton_append]
    exact List.forall_mem_cons.mpr ⟨isAlphanum_toUpper plain, later⟩

/-- **Joined words are ASCII letters and digits**, whatever the text. -/
theorem isAlphanum_joinedWords (s : String) : ∀ c ∈ (joinedWords s).toList, c.isAlphanum = true := by
  intro c member
  rw [joinedWords, String.toList_join] at member
  obtain ⟨_, hw, member⟩ := List.mem_flatMap.mp member
  obtain ⟨part, hp, rfl⟩ := List.mem_map.mp hw
  refine isAlphanum_capitalize ?_ c member
  intro d hd
  rw [String.toList_ofList] at hd
  obtain ⟨written, other⟩ := mem_split (List.mem_filter.mp hp).1 d hd
  obtain ⟨e, _, rfl⟩ := List.mem_map.mp written
  by_cases kept : isAsciiWordChar e = true
  · rw [if_pos kept] at other ⊢
    simpa [isAsciiWordChar, other] using kept
  · rw [if_neg kept] at other
    exact absurd rfl other

/-! ## The names of classes -/

/-- ASCII letters and digits that begin with no digit make an identifier. -/
theorem isIdentifierShape_of_isAlphanum {c : Char} {rest : List Char}
    (plain : ∀ d ∈ c :: rest, d.isAlphanum = true) (letter : isDigit c = false) :
    isIdentifierShape (c :: rest) = true := by
  obtain ⟨first, later⟩ := List.forall_mem_cons.mp plain
  have low := ascii_of_isAlphanum first
  rw [isDigit_of_ascii low] at letter
  rw [Char.isAlphanum, letter, Bool.or_false] at first
  refine Bool.and_eq_true_iff.mpr ⟨?_, List.all_eq_true.mpr fun d hd => ?_⟩
  · rw [isIdentifierStart, if_pos low, first, Bool.true_or]
  · exact isIdentifierPart_of_isAlphanum (later d hd)

/-- No reserved word has a capital M in it. -/
theorem isReserved_of_mark {s : String} (mark : 'M' ∈ s.toList) : isReserved s = false := by
  have none : ∀ w ∈ reservedWords, 'M' ∉ w.toList := by decide
  exact Bool.eq_false_iff.mpr fun reserved => none s (List.contains_iff_mem.mp reserved) mark

theorem isValidName_of_mark {s : String} (shape : isIdentifierShape s.toList = true) (mark : 'M' ∈ s.toList) :
    isValidName s = true := by
  rw [isValidName, shape, isReserved_of_mark mark]
  rfl

/-- Every character of a valid name may stand in an identifier. -/
theorem all_part_of_isValidName {s : String} (valid : isValidName s = true) :
    s.toList.all isIdentifierPart = true := by
  obtain ⟨shape, _⟩ := Bool.and_eq_true_iff.mp valid
  cases chars : s.toList with
  | nil => rfl
  | cons c rest =>
    rw [chars] at shape
    obtain ⟨start, later⟩ := Bool.and_eq_true_iff.mp shape
    rw [List.all_cons, isIdentifierPart_of_start start, later]
    rfl

theorem isLine_of_isValidName {s : String} (valid : isValidName s = true) : Source.IsLine s :=
  Source.isLine_of_all (List.all_eq_true.mp (all_part_of_isValidName valid)) (by decide +kernel)

theorem isValidName_model_append {s : String} (parts : s.toList.all isIdentifierPart = true) :
    isValidName ("Model" ++ s) = true := by
  have model : isIdentifierShape "Model".toList = true := by decide
  refine isValidName_of_mark ?_ (by simp)
  rw [String.toList_append, isIdentifierShape_append (by simp), model, parts]
  rfl

theorem isValidName_append_model {s : String} (shape : s = "" ∨ isIdentifierShape s.toList = true) :
    isValidName (s ++ "Model") = true := by
  rcases shape with rfl | shape
  · decide
  · refine isValidName_of_mark ?_ (by simp)
    have model : "Model".toList.all isIdentifierPart = true := by decide
    rw [String.toList_append, isIdentifierShape_append (by simpa using ne_empty_of_shape shape), shape, model]
    rfl

/-- The joined words of a text, with `Model` before a leading digit. -/
def startedWords (s : String) : String :=
  if startsWithDigit (joinedWords s) then "Model" ++ joinedWords s else joinedWords s

theorem className_eq (s : String) : className s = if isValidName s then s
    else if isValidName (startedWords s) then startedWords s else startedWords s ++ "Model" := rfl

theorem startedWords_shape (s : String) : startedWords s = "" ∨ isIdentifierShape (startedWords s).toList = true := by
  have plain := isAlphanum_joinedWords s
  rw [startedWords]
  split
  · have parts : (joinedWords s).toList.all isIdentifierPart = true :=
      List.all_eq_true.mpr fun c member => isIdentifierPart_of_isAlphanum (plain c member)
    exact .inr (Bool.and_eq_true_iff.mp (isValidName_model_append parts)).1
  · next noDigit =>
    rw [startsWithDigit] at noDigit
    cases chars : (joinedWords s).toList with
    | nil => exact .inl (String.toList_eq_nil_iff.mp chars)
    | cons c rest =>
      rw [chars] at plain noDigit
      exact .inr (isIdentifierShape_of_isAlphanum plain (by simpa using noDigit))

/-- **The name of a class is valid**, whatever it is made of. -/
theorem isValidName_className (s : String) : isValidName (className s) = true := by
  rw [className_eq]
  split
  · next valid => exact valid
  · split
    · next valid => exact valid
    · exact isValidName_append_model (startedWords_shape s)

/-- A digit in front, a reserved word that is capitalised, and no ASCII letters. -/
example : ["2-none", "-none", "день 1", "", "день"].map className =
    ["Model2None", "NoneModel", "Model1", "Model", "день"] := by decide +kernel

theorem className_of_isValidName {s : String} (valid : isValidName s = true) : className s = s := if_pos valid

/-! ## The classes of a description -/

namespace Client

open Api

theorem isValidName_renamedModel (taken : List String) {name : String} (valid : isValidName name = true) :
    isValidName (renamedModel taken name) = true := by
  obtain ⟨n, found⟩ := exists_freshName_eq taken (underlined ("Model" ++ name))
  have parts : name.toList.all isIdentifierPart = true := all_part_of_isValidName valid
  have model := isValidName_model_append parts
  rw [renamedModel, found, isValidName_underlined (by simp) (isReserved_of_mark (by simp)), model]

theorem isValidName_add {enumClasses : List String} {naming : ModelNaming} (m : ModelType)
    (valid : ∀ c ∈ naming.given.values, isValidName c = true) :
    ∀ c ∈ (naming.add enumClasses m).given.values, isValidName c = true := by
  intro c member
  rw [ModelNaming.add] at member
  split at member
  · split at member
    · exact valid c member
    · rcases Fields.mem_values_put member with rfl | member
      · exact isValidName_renamedModel _ (isValidName_className _)
      · exact valid c member
  · split at member
    · exact valid c member
    · rcases Fields.mem_values_put member with rfl | member
      · exact isValidName_className _
      · exact valid c member

/-- **The classes of the models have valid names**, the renamed ones too. -/
theorem isValidName_models (d : Description) : ∀ c ∈ (namesOf d).models.values, isValidName c = true := by
  have each : ∀ models : List ModelType,
      ∀ c ∈ (nameModels (enumClassNames d.enums).values models).given.values, isValidName c = true := by
    intro models
    induction models using List.reverseRecOn with
    | nil => exact nofun
    | append_singleton models m ih =>
      rw [nameModels_concat]
      exact isValidName_add m ih
  exact each d.models

end Client

end TypedClient
