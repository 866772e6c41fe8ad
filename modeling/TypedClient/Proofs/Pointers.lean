import TypedClient.Proofs.Aliases
import TypedClient.Proofs.PercentForms
import TypedClient.Proofs.WrittenFiles
import TypedClient.References.Library
import TypedClient.Schema.Model

/-!
# References to definitions

A reference to a definition is a pointer into the document: the key of the definition with tildes and slashes
escaped, in an address where most characters outside ASCII letters and digits are in percent form. Two readers
take it apart. The one that follows links undoes all of this; the one that names references takes what stands
behind the last slash.

**What is proved.** `definition_readBack`: whatever the key, the pointer leads to it, and the reference is read as one
to the key in its spelling. So a reference is read back as one to its own definition exactly when each character of
the key stands for itself; as a part it contributes the properties of the definition, and as a property it has the
type of a reference to it. `orderLine` has a key with a blank, whose reference contributes nothing.
-/

namespace TypedClient

namespace References

open Text

/-! ## The pointer to a definition -/

/-- The characters that may stand in the fragment of an address as they are: letters, digits, and those marks that
are neither delimiters of an address nor the percent sign. -/
def isFragmentChar (c : Char) : Bool := c.isAlphanum || "-._~!$&()*+,;=:@/?\x27".toList.contains c

/-- A character of a key in a pointer to it: a tilde and a slash have escapes, and what may not stand in a fragment
is in percent form. -/
def spelledChar (c : Char) : List Char :=
  if c = '~' then ['~', '0'] else if c = '/' then ['~', '1'] else if isFragmentChar c then [c]
  else (bytesOf c).flatMap percentByte

/-- A key in a pointer to it. -/
def spelledKey (key : String) : String := String.ofList (key.toList.flatMap spelledChar)

theorem toList_spelledKey (key : String) : (spelledKey key).toList = key.toList.flatMap spelledChar :=
  String.toList_ofList

/-- A character with the escapes that a pointer has for tildes and slashes. -/
def escapedChar (c : Char) : List Char :=
  if c = '~' then ['~', '0'] else if c = '/' then ['~', '1'] else [c]

/-- What may stand in a fragment is an ASCII character and not the percent sign. -/
theorem isFragmentChar_plain {c : Char} (h : isFragmentChar c = true) : c.toNat < 0x80 ∧ c ≠ '%' := by
  have marks : "-._~!$&()*+,;=:@/?\x27".toList.all (fun c => decide (c.toNat < 0x80 ∧ c ≠ '%')) = true := by decide
  rcases Bool.or_eq_true_iff.mp h with alphanumeric | mark
  · constructor
    · exact UInt32.lt_iff_toNat_lt.mp (Text.ascii_of_isAlphanum alphanumeric)
    · rintro rfl
      exact absurd alphanumeric (by decide)
  · exact of_decide_eq_true (List.all_eq_true.mp marks c (List.contains_iff_mem.mp mark))

theorem decodeFrom_spelledChar (c : Char) (rest : List Char) :
    decodeFrom none (spelledChar c ++ rest) = escapedChar c ++ decodeFrom none rest := by
  have tilde := @decodeFrom_plain '~' (by decide) (by decide)
  rw [spelledChar, escapedChar]
  split
  · rw [List.cons_append, tilde, List.cons_append, decodeFrom_plain (by decide) (by decide)]
    rfl
  · split
    · rw [List.cons_append, tilde, List.cons_append, decodeFrom_plain (by decide) (by decide)]
      rfl
    · split
      · next fragment =>
        obtain ⟨ascii, notPercent⟩ := isFragmentChar_plain fragment
        rw [List.cons_append, decodeFrom_plain ascii notPercent]
        rfl
      · rw [decodeFrom_bytesOf]
        rfl

/-- Reading percent forms leaves a key with its escapes. -/
theorem decodeFrom_spelledKey (key : List Char) :
    decodeFrom none (key.flatMap spelledChar) = key.flatMap escapedChar := by
  induction key with
  | nil => rfl
  | cons c rest ih => rw [List.flatMap_cons, decodeFrom_spelledChar, ih, List.flatMap_cons]

/-! ## The steps of the pointer -/

theorem slash_not_mem_escaped (key : List Char) : '/' ∉ key.flatMap escapedChar := by
  intro h
  obtain ⟨c, _, hc⟩ := List.mem_flatMap.mp h
  unfold escapedChar at hc
  split at hc
  · simp at hc
  · split at hc
    · simp at hc
    · next other => exact other (List.mem_singleton.mp hc).symm

/-- A key with its tildes escaped. -/
def tildesEscaped (key : List Char) : List Char := key.flatMap fun c => if c = '~' then ['~', '0'] else [c]

theorem replaceSeq_slashes (key : List Char) :
    replaceSeq ['~', '1'] ['/'] (key.flatMap escapedChar) = tildesEscaped key := by
  induction key with
  | nil => rfl
  | cons c rest ih =>
    rw [List.flatMap_cons, tildesEscaped, List.flatMap_cons, ← tildesEscaped, escapedChar]
    split
    · rw [List.cons_append, replaceSeq_cons (by simp), List.cons_append, replaceSeq_cons (by simp),
        List.nil_append, ih]
      rfl
    · split
      · next slash => rw [List.cons_append, List.cons_append, List.nil_append, replaceSeq_pair, ih, slash]
      · next other _ => rw [List.cons_append, replaceSeq_cons (by simp [Ne.symm other]), List.nil_append, ih]; rfl

theorem replaceSeq_tildes (key : List Char) : replaceSeq ['~', '0'] ['~'] (tildesEscaped key) = key := by
  induction key with
  | nil => rfl
  | cons c rest ih =>
    rw [tildesEscaped, List.flatMap_cons, ← tildesEscaped]
    split
    · next tilde => rw [List.cons_append, List.cons_append, List.nil_append, replaceSeq_pair, ih, tilde]; rfl
    · next other => rw [List.cons_append, replaceSeq_cons (by simp [Ne.symm other]), List.nil_append, ih]

/-- **A pointer to a definition leads to it**: the steps are `definitions` and the key. -/
theorem pointerSteps_spelledKey (key : String) :
    pointerSteps ("/definitions/" ++ spelledKey key).toList = ["definitions", key] := by
  have inside : ("/definitions/" ++ spelledKey key).toList.dropWhile (· == '/') =
      "definitions/".toList ++ key.toList.flatMap spelledChar := by
    rw [String.toList_append, toList_spelledKey]
    rfl
  have plain : "definitions/".toList.all (fun c => decide (c.toNat < 0x80 ∧ c ≠ '%')) = true := by decide
  have read : decode ("definitions/".toList ++ key.toList.flatMap spelledChar) =
      "definitions".toList ++ '/' :: key.toList.flatMap escapedChar := by
    rw [decode, decodeFrom_append fun c hc => of_decide_eq_true (List.all_eq_true.mp plain c hc),
      decodeFrom_spelledKey]
    rfl
  have notEmpty : ("/definitions/" ++ spelledKey key).toList.isEmpty = false := by
    rw [String.toList_append]
    rfl
  have first : split '/' "definitions".toList = ["definitions".toList] := split_eq_single (by decide)
  have word : replaceSeq ['~', '0'] ['~'] (replaceSeq ['~', '1'] ['/'] "definitions".toList) =
      "definitions".toList := by decide
  rw [pointerSteps, notEmpty, if_neg Bool.false_ne_true, inside, read, split_append, first,
    split_eq_single (slash_not_mem_escaped _), List.singleton_append, List.map_cons, List.map_singleton, word,
    replaceSeq_slashes, replaceSeq_tildes, String.ofList_toList, String.ofList_toList]

/-! ## Keys that stand for themselves -/

/-- A character that a pointer has as it is. -/
def StandsForItself (c : Char) : Prop := c ≠ '~' ∧ c ≠ '/' ∧ isFragmentChar c = true

instance (c : Char) : Decidable (StandsForItself c) := inferInstanceAs (Decidable (_ ∧ _ ∧ _))

theorem spelledChar_of_standsForItself {c : Char} (h : StandsForItself c) : spelledChar c = [c] := by
  obtain ⟨notTilde, notSlash, fragment⟩ := h
  rw [spelledChar, if_neg notTilde, if_neg notSlash, if_pos fragment]

/-- Any other character is spelled with several. -/
theorem length_spelledChar {c : Char} (h : ¬ StandsForItself c) : 1 < (spelledChar c).length := by
  rw [spelledChar]
  split
  · decide
  · split
    · decide
    · split
      · next notTilde notSlash fragment => exact absurd ⟨notTilde, notSlash, fragment⟩ h
      · have inhabited : bytesOf c ≠ [] := by
          rw [bytesOf_eq]
          split_ifs <;> simp
        obtain ⟨b, more, bytes⟩ := List.exists_cons_of_ne_nil inhabited
        simp [bytes, percentByte]

theorem length_le_flatMap_spelledChar (key : List Char) : key.length ≤ (key.flatMap spelledChar).length := by
  induction key with
  | nil => exact Nat.le_refl _
  | cons c rest ih =>
    have positive : 1 ≤ (spelledChar c).length := by
      by_cases h : StandsForItself c
      · rw [spelledChar_of_standsForItself h]
        exact Nat.le_refl _
      · exact Nat.le_of_lt (length_spelledChar h)
    rw [List.flatMap_cons, List.length_append, List.length_cons]
    omega

/-- A key is spelled as it is exactly when each of its characters stands for itself. -/
theorem spelledKey_eq_iff (key : String) : spelledKey key = key ↔ ∀ c ∈ key.toList, StandsForItself c := by
  rw [← String.toList_inj, toList_spelledKey]
  induction key.toList with
  | nil => simp
  | cons c rest ih =>
    rw [List.flatMap_cons, List.forall_mem_cons, ← ih]
    by_cases h : StandsForItself c
    · simp [spelledChar_of_standsForItself h, h]
    · refine iff_of_false (fun same => ?_) (fun both => h both.1)
      have lengths := congrArg List.length same
      have := length_spelledChar h
      have := length_le_flatMap_spelledChar rest
      rw [List.length_append, List.length_cons] at lengths
      omega

/-- There is no slash in the spelling of a key. -/
theorem slash_not_mem_spelledKey (key : String) : '/' ∉ (spelledKey key).toList := by
  rw [toList_spelledKey]
  intro h
  obtain ⟨c, _, hc⟩ := List.mem_flatMap.mp h
  have digit : ∀ n < 16, upperHex n ≠ '/' := by decide
  unfold spelledChar at hc
  split at hc
  · simp at hc
  · split at hc
    · simp at hc
    · next other =>
      split at hc
      · exact other (List.mem_singleton.mp hc).symm
      · obtain ⟨b, byte, hb⟩ := List.mem_flatMap.mp hc
        have small := bytesOf_lt b byte
        simp only [percentByte, List.mem_cons, List.not_mem_nil, or_false] at hb
        rcases hb with percent | high | low
        · exact absurd percent (by decide)
        · exact digit _ (by omega) high.symm
        · exact digit _ (by omega) low.symm

end References

namespace Api

open Schema References

/-- The reference to a definition, as a pointer into the document. -/
def definitionReference (key : String) : String := "#/definitions" ++ "/" ++ spelledKey key

/-- What a reference to a definition names is the key as it is spelled. -/
theorem lastSegment_definitionReference (key : String) : lastSegment (definitionReference key) = spelledKey key :=
  lastSegment_under _ (slash_not_mem_spelledKey key)

/-- A value that is a reference: an object with a `$ref`, or the link in its place. -/
inductive RefersBy (target : String) : Value → Prop
  | object {fields : Fields Value} (stated : refTarget? fields = some target) : RefersBy target (.object fields)
  | link (place : Place) (fields : Fields Value) : RefersBy target (.link place target fields)

variable {v : Value} {target : String}

theorem RefersBy.refName? (h : RefersBy target v) : refName? v = some (lastSegment target) := by
  cases h with
  | object stated => rw [Schema.refName?, stated, Option.map_some]
  | link => rfl

theorem RefersBy.read_property (h : RefersBy target v) (links : Links) (required : Bool) :
    Property.read links required v = .ok (.reference (lastSegment target) required) := by
  cases h with
  | object stated => rw [Property.read, stated]
  | link => rw [Property.read]

theorem RefersBy.read_model (h : RefersBy target v) (links : Links) :
    Model.read links v = .ok { target := some (lastSegment target) } := by
  rw [Model.read]
  cases links.budget <;> rw [Model.readTo] <;> cases h with
  | object stated => rw [Model.readWith, stated]
  | link => rw [Model.readWith]

/-! ## What a reference is read as -/

/-- A part of a composition that contributes the properties of a definition: on every way that has not come through
the definition it gathers what the definition gathers, and by itself it has the properties of the definition when
that one is not composed of itself. -/
structure Contributes (definitions : Fields Model) (key : String) (part : Model) : Prop where
  gathers : ∀ {d visited}, definitions.get? key = some d → key ∉ visited →
    ∀ ps, Gathers definitions visited part ps ↔ Gathers definitions (key :: visited) d ps
  whole : ∀ {d}, definitions.get? key = some d → ¬ Relation.TransGen (ComposedOf definitions) key key →
    effectiveProperties definitions part = effectiveProperties definitions d

theorem contributes_reference (definitions : Fields Model) (key : String) :
    Contributes definitions key { target := some key } where
  gathers defined new := gathers_named_iff rfl defined new
  whole defined free := (effectiveProperties_alias rfl defined).trans (effectiveProperties_without defined free)

/-- A value that is read as a reference to a definition: as a part it contributes the properties of the definition,
as a property it has the type of a reference to it. -/
structure ReadBack (context : TypeContext) (key : String) (v : Value) : Prop where
  name : refName? v = some key
  part : ∀ links, ∃ part, Model.read links v = .ok part ∧ Contributes context.definitions key part
  property : ∀ links required, ∃ p, Property.read links required v = .ok p ∧
    context.resolve p = (context.resolveTarget key).withNullable (!required)

/-- Every reference is read back as the last segment of its target. -/
theorem RefersBy.readBack (h : RefersBy target v) (context : TypeContext) :
    ReadBack context (lastSegment target) v where
  name := h.refName?
  part links := ⟨_, h.read_model links, contributes_reference _ _⟩
  property links required := ⟨_, h.read_property links required, rfl⟩

/-- **References to definitions.** The pointer to a definition leads to its key, whatever the key is. A reference by
this pointer is read back as the key in its spelling, so as the key itself exactly when each of its characters
stands for itself. -/
theorem definition_readBack (context : TypeContext) (key : String) {v : Value}
    (refers : RefersBy (definitionReference key) v) :
    pointerSteps ("/definitions/" ++ spelledKey key).toList = ["definitions", key] ∧
      ReadBack context (spelledKey key) v ∧
      (ReadBack context key v ↔ ∀ c ∈ key.toList, StandsForItself c) := by
  have spelled := refers.readBack context
  rw [lastSegment_definitionReference] at spelled
  refine ⟨pointerSteps_spelledKey key, spelled, ?_⟩
  rw [← spelledKey_eq_iff]
  constructor
  · exact fun back => Option.some.inj (spelled.name.symm.trans back.name)
  · exact fun same => same ▸ spelled

/-- A reference to the definition of a key. -/
def referenceTo (key : String) : Value := .object [("$ref", .str (definitionReference key))]

theorem referenceTo_refers (key : String) : RefersBy (definitionReference key) (referenceTo key) := .object rfl

/-- A key of letters is read back. -/
theorem definition_readBack_pet : RefersBy (definitionReference "Pet") (referenceTo "Pet") ∧
    definitionReference "Pet" = "#/definitions/Pet" ∧ ReadBack petAlias "Pet" (referenceTo "Pet") := by
  have plain : ∀ c ∈ "Pet".toList, StandsForItself c := by simp [StandsForItself, isFragmentChar]
  obtain ⟨_, _, back⟩ := definition_readBack petAlias "Pet" (referenceTo_refers "Pet")
  refine ⟨referenceTo_refers "Pet", ?_, back.mpr plain⟩
  rw [definitionReference, (spelledKey_eq_iff "Pet").mpr plain]
  rfl

/-- Whether every reference to a definition is read back. -/
def EveryReferenceReadBack (context : TypeContext) : Prop :=
  ∀ key v, RefersBy (definitionReference key) v → ReadBack context key v

/-- A definition with a blank in its key. -/
def orderLine : TypeContext where
  definitions := [("order line", { properties := [("id", textProperty)] })]
  enumNames := []

/-- Its reference is not read back: the blank stays in percent form, and no definition has this name. -/
theorem not_everyReferenceReadBack : ¬ EveryReferenceReadBack orderLine := by
  intro every
  obtain ⟨part, read, contributes⟩ := (every "order line" _ (referenceTo_refers _)).part .none
  cases ((referenceTo_refers "order line").read_model .none).symm.trans read
  have acyclic : IsAcyclic orderLine.definitions := isAcyclic_of_rank (fun _ => 0) (by decide)
  have sizes := congrArg List.length (contributes.whole rfl (acyclic "order line"))
  rw [lastSegment_definitionReference] at sizes
  revert sizes
  decide +kernel

end Api

end TypedClient
