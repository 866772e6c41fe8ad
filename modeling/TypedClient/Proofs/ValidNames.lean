import TypedClient.Proofs.Attributes

/-!
# Valid names in the package

The names of functions, arguments, attributes and members are made of what the schema calls them. Each is
cleaned first, then changed until it is free. To change a name adds characters that may stand in an identifier,
so a name is as valid as the cleaned one, and that one is valid when the alphanumeric characters it is made of
are spellable.

**What is proved.** `names_valid_iff`: of every text, the names that it becomes are valid exactly when its
alphanumeric characters are spellable, and in every package the same is true of each function, argument,
attribute and member. `not_everyNameValid` shows that there are other texts.
-/

namespace TypedClient.Client

open Api Source Text

/-! ## One name -/

/-- A name made of a text is valid exactly when the alphanumeric characters of the text are spellable. -/
def SpelledAs (source name : String) : Prop := isValidName name = true ↔ Spellable (alphanumerics source)

theorem spelledAs_argument (source : String) (n : Nat) : SpelledAs source (underlined (argumentName source) n) := by
  rw [SpelledAs, isValidName_underlined (argumentName_ne_empty source) (isReserved_argumentName source)]
  exact isValidName_argumentName source

theorem spelledAs_function (source : String) (n : Nat) : SpelledAs source (numbered (argumentName source) n) := by
  rw [SpelledAs, isValidName_numbered (argumentName_ne_empty source) (isReserved_argumentName source)]
  exact isValidName_argumentName source

theorem spelledAs_member (source : String) (n : Nat) : SpelledAs source (numbered (memberName source) n) := by
  rw [SpelledAs, isValidName_numbered (memberName_ne_empty source) (isReserved_memberName source)]
  exact isValidName_memberName source

theorem spelledAs_attribute (source : String) (n : Nat) : SpelledAs source (underlined (attributeBase source) n) := by
  rw [attributeBase_eq]
  split
  · have line : '_' ∈ fieldMark.toList := by decide
    have marked : isReserved (argumentName source ++ fieldMark) = false :=
      isReserved_of_lowLine (String.toList_append ▸ List.mem_append_right _ line)
    rw [SpelledAs, isValidName_underlined (by simp [argumentName_ne_empty]) marked,
      isValidName_append (argumentName_ne_empty source) (isReserved_argumentName source) line (by decide)]
    exact isValidName_argumentName source
  · exact spelledAs_argument source n

/-! ## The names of a package -/

/-- Names found one after the other among the candidates are spelled as the candidates are. -/
theorem spelledAs_of_renamed {α β : Type} {candidate : α → Nat → String} {source : α → String}
    {name : β → String} {used : List String} {items : List α} {named : List β}
    (renamed : Renamed candidate used items (named.map name))
    (spelled : ∀ item n, SpelledAs (source item) (candidate item n)) :
    List.Forall₂ (fun item b => SpelledAs (source item) (name b)) items named := by
  refine (List.forall₂_map_right_iff.mp renamed.candidates).imp fun item b found => ?_
  obtain ⟨n, found⟩ := found
  exact found ▸ spelled item n

theorem enumsFile_spelled (enums : List EnumType) : List.Forall₂
    (fun p q => List.Forall₂ (fun c a => SpelledAs c.name a.name) p.2.constants q.2.attributes)
    (enumsByClass enums) (enumsFile enums).classes := by
  refine List.forall₂_map_right_iff.mpr (List.forall₂_same.mpr fun p _ => ?_)
  have renamed := renamed_memberNames [] p.2.constants
  rw [← names_enumMembers] at renamed
  exact spelledAs_of_renamed renamed fun c => spelledAs_member c.name

theorem modelClass_spelled {names : ClassNames} {c : String} {m : ModelType} {decl : ClassDecl}
    (made : modelClass names c m = .ok decl) :
    List.Forall₂ (fun f a => SpelledAs f.name a.name) m.fields decl.attributes :=
  spelledAs_of_renamed (modelClassFor_of_modelClass made).renamed fun f => spelledAs_attribute f.name

/-- A function and its arguments against the method that they are made of. -/
def FunctionSpelled (m : Method) (f : FunctionDecl) : Prop :=
  SpelledAs m.name f.name ∧ ∃ arguments, f.parameters = { name := "self" } :: arguments ∧
    List.Forall₂ (fun p a => SpelledAs p.name a.name) m.parameters arguments

theorem interface_spelled {names : ClassNames} {methods : List Method} {decl : ClassDecl}
    (made : InterfaceFor names methods decl) : List.Forall₂ FunctionSpelled methods decl.functions.values := by
  have renamed := made.renamed
  rw [← made.named] at renamed
  have own : List.Forall₂ (fun m f => SpelledAs m.name f.name) methods decl.functions.values :=
    spelledAs_of_renamed renamed fun m => spelledAs_function m.name
  refine List.Forall₂.mp ?_ made.functions own
  intro m f made spelled
  refine ⟨spelled, ?_⟩
  obtain ⟨arguments, parameters, _, renamed⟩ := made.arguments
  refine ⟨arguments, parameters, ?_⟩
  exact spelledAs_of_renamed renamed fun p => spelledAs_argument p.name

/-- The names in the files of a description, each against the text that it is made of. -/
structure NamesSpelled (d : Description) (enums models interface : File) : Prop where
  members : List.Forall₂
    (fun p q => List.Forall₂ (fun c a => SpelledAs c.name a.name) p.2.constants q.2.attributes)
    (enumsByClass d.enums) enums.classes
  attributes : List.Forall₂
    (fun p q => List.Forall₂ (fun f a => SpelledAs f.name a.name) p.2.fields q.2.attributes)
    (modelsByClass (ClassNames.ofDescription d).1 d.models) models.classes
  functions : ∃ name decl, interface.classes = [(name, decl)] ∧
    List.Forall₂ FunctionSpelled d.interface.methods decl.functions.values

/-- **Which names are valid.** What a text becomes is a valid name exactly when its alphanumeric characters are
spellable, and so is in every package each member, attribute, function and argument. -/
theorem names_valid_iff (s : String) (settings : Settings) (d : Description) :
    (isValidName (argumentName s) = true ↔ Spellable (alphanumerics s)) ∧
      (isValidName (memberName s) = true ↔ Spellable (alphanumerics s)) ∧
      ∀ p, package settings d = .ok p →
        ∃ enums models interface others, p.files = enums :: models :: interface :: others ∧
          NamesSpelled d enums models interface := by
  refine ⟨isValidName_argumentName s, isValidName_memberName s, fun p rendered => ?_⟩
  obtain ⟨models, interface, others, hm, hi, files⟩ := package_eq_ok rendered
  obtain ⟨decl, classes, _, made⟩ := interfaceFor_of_interfaceFile hi
  refine ⟨_, models, interface, others, files, enumsFile_spelled d.enums, ?_, _, decl, classes,
    interface_spelled made⟩
  exact (modelsFile_eq_ok hm).1.imp fun p q made => modelClass_spelled made.2

/-- A document with a field whose name has a digit that no identifier has. -/
def areaRoot : Value :=
  .object [("definitions", .object [
    ("Area", .object [("properties", .object [("m²", .object [("type", .str "integer")])])])])]

/-- What is generated from it. -/
abbrev areaDescription : Description := (describe .none {} (Schema.Document.read .none areaRoot).1).1

/-- Its package is rendered. -/
theorem names_valid_area : ∃ p enums models interface others, package {} areaDescription = .ok p ∧
    p.files = enums :: models :: interface :: others ∧ NamesSpelled areaDescription enums models interface := by
  obtain ⟨p, rendered⟩ := exists_defaultPackage .none (Schema.Document.read .none areaRoot).1
  obtain ⟨_, _, every⟩ := names_valid_iff "m²" {} areaDescription
  obtain ⟨enums, models, interface, others, files, spelled⟩ := every p rendered
  exact ⟨p, enums, models, interface, others, rendered, files, spelled⟩

/-- Whether every text becomes valid names. -/
def EveryNameValid : Prop := ∀ s, isValidName (argumentName s) = true ∧ isValidName (memberName s) = true

/-- Not every text does: a superscript digit is kept and no identifier has it. -/
theorem not_everyNameValid : ¬ EveryNameValid := by
  intro every
  have square : '²' ∈ alphanumerics "m²" := by decide +kernel
  have spellable := (isValidName_argumentName "m²").mp (every "m²").1
  have apart : isIdentifierPart '²' = false := by decide +kernel
  cases apart.symm.trans (spellable.parts _ square)

end TypedClient.Client
