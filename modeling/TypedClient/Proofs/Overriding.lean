import TypedClient.Proofs.Plain

/-!
# Overridden parameters

The parameters of a path are shared by its operations, and an operation overrides one by declaring a parameter of
the same name at the same place. Which of them are overridden is only asked when all of them have been read.

**What is proved.** `overridden_replaced`: an overridden parameter may be replaced by any other of its name and place
that can be read, and the operation is read as before, with the same result or the same fault. One that cannot be
read makes the operation fail, though nothing of it would be used: `not_overriddenIgnored` is an operation that is
lost to the format of a parameter that it overrides.
-/

namespace TypedClient.Schema

variable {links : Links} {name : String} {location : Location} {verb : String} {v u : Value}
  {before after : List Value}

/-! ## Names and places -/

/-- A value goes by a name and a place: it is an object that states both. -/
inductive GoesBy (links : Links) (name : String) (location : Location) (v : Value) : Prop
  | intro {fields : Fields Value} {label : Value} (object : links.fields v = .ok fields)
    (labelled : demand fields "name" = .ok label) (text : label.requiredText = .ok name)
    (place : Location.read links (fields.value "in") = .ok location)

/-- An operation declares a parameter of a name and a place. -/
inductive Operation.Declares (links : Links) (name : String) (location : Location) (v : Value) : Prop
  | intro {fields : Fields Value} {own : List Value} {node : Value} (object : links.fields v = .ok fields)
    (listed : links.itemsIfPresent (fields.value "parameters") = .ok own) (mem : node ∈ own)
    (goesBy : GoesBy links name location node)

/-- A value goes by one name and one place at most. -/
theorem GoesBy.unique {other : String} {elsewhere : Location} (h : GoesBy links name location v)
    (h' : GoesBy links other elsewhere v) : name = other ∧ location = elsewhere := by
  obtain ⟨object, labelled, text, place⟩ := h
  obtain ⟨object', labelled', text', place'⟩ := h'
  cases Except.ok.inj (object.symm.trans object')
  cases Except.ok.inj (labelled.symm.trans labelled')
  exact ⟨Except.ok.inj (text.symm.trans text'), Except.ok.inj (place.symm.trans place')⟩

/-- A parameter has the name and the place of what it is read from. -/
theorem Parameter.goesBy_of_read {p : Parameter} (h : Parameter.read links v = .ok p) :
    GoesBy links p.name p.location v := by
  cases Parameter.readAs_of_read h with
  | inBody object place labelled text => exact ⟨object, labelled, text, place⟩
  | elsewhere object place _ labelled text => exact ⟨object, labelled, text, place⟩

/-- A parameter is overridden when what it is read from goes by the name and the place of a declared one. -/
theorem isOverridden_of_goesBy {own : List Value} {declared : List Parameter} {node : Value} {p : Parameter}
    (read : own.mapM (Parameter.read links) = .ok declared) (mem : node ∈ own)
    (declares : GoesBy links name location node) (goesBy : GoesBy links name location u)
    (hp : Parameter.read links u = .ok p) : isOverridden declared p = true := by
  obtain ⟨q, hq, readNode⟩ := exists_of_mem_left (mapM_eq_ok.mp read) mem
  obtain ⟨sameName, samePlace⟩ := (Parameter.goesBy_of_read readNode).unique declares
  obtain ⟨sameName', samePlace'⟩ := (Parameter.goesBy_of_read hp).unique goesBy
  refine List.any_eq_true.mpr ⟨q, hq, ?_⟩
  rw [sameName, samePlace, sameName', samePlace']
  simp

/-! ## Shared parameters -/

/-- An overridden parameter that can be read does not count. -/
theorem Operation.read_overridden (declares : Operation.Declares links name location v)
    (goesBy : GoesBy links name location u) {p : Parameter} (hp : Parameter.read links u = .ok p) :
    Operation.read links verb v (.list (before ++ u :: after)) =
      Operation.read links verb v (.list (before ++ after)) := by
  obtain ⟨object, listed, mem, declared⟩ := declares
  simp only [Operation.read, object, listed, Links.itemsIfPresent_list, ok_bind]
  cases read : List.mapM (Parameter.read links) _ with
  | error fault => rfl
  | ok ps =>
    have overridden := isOverridden_of_goesBy read mem declared goesBy hp
    simp only [List.mapM_append, List.mapM_cons, hp, ok_bind]
    -- the other parameters are read as before, and the first fault among them stays the first
    cases before.mapM (Parameter.read links) with
    | error fault => rfl
    | ok earlier =>
      cases after.mapM (Parameter.read links) with
      | error fault => rfl
      | ok later => simp [overridden]

/-- A shared parameter that cannot be read makes the operation fail, overridden or not. -/
theorem Operation.read_unreadable {fault : Fault} (hu : Parameter.read links u = .error fault) {o : Operation} :
    Operation.read links verb v (.list (before ++ u :: after)) ≠ .ok o := by
  intro h
  obtain ⟨_, _, _, above, common, _, _, _, _, listed, read, _⟩ := Operation.parameters_of_read h
  rw [Links.itemsIfPresent_list] at listed
  cases listed
  obtain ⟨p, _, hp⟩ := exists_of_mem_left (mapM_eq_ok.mp read) (List.mem_append_right before List.mem_cons_self)
  rw [hu] at hp
  cases hp

/-- **An overridden parameter does not matter as long as it can be read.** Another one of its name and place leaves
the operation as it was when that can be read too, and leaves no operation when it cannot. -/
theorem overridden_replaced {u' : Value} {p : Parameter} (before after : List Value)
    (declares : Operation.Declares links name location v) (first : GoesBy links name location u)
    (second : GoesBy links name location u') (read : Parameter.read links u = .ok p) :
    (∀ q, Parameter.read links u' = .ok q → Operation.read links verb v (.list (before ++ u' :: after)) =
      Operation.read links verb v (.list (before ++ u :: after))) ∧
    (∀ fault, Parameter.read links u' = .error fault →
      ∀ o, Operation.read links verb v (.list (before ++ u' :: after)) ≠ .ok o) := by
  refine ⟨fun q readOther => ?_, fun fault unreadable o => Operation.read_unreadable unreadable⟩
  rw [Operation.read_overridden declares first read, Operation.read_overridden declares second readOther]

/-! ## A pet by its number -/

/-- An operation that declares the number of a pet in its path. -/
def getPet : Value :=
  .object [("operationId", .str "getPet"), ("parameters", .list [
    .object [("name", .str "petId"), ("in", .str "path"), ("required", .bool true), ("type", .str "integer")]])]

/-- A parameter of its path of the same name and place, with some other field. -/
def sharedPetId (field : String × Value) : Value := .object [("name", .str "petId"), ("in", .str "path"), field]

theorem getPet_declares : Operation.Declares .none "petId" .path getPet :=
  ⟨rfl, rfl, List.mem_cons_self, rfl, rfl, rfl, rfl⟩

theorem goesBy_sharedPetId (field : String × Value) : GoesBy .none "petId" .path (sharedPetId field) :=
  ⟨rfl, rfl, rfl, rfl⟩

/-- Whether a text or an array is shared, the operation has its own number. -/
theorem overridden_replaced_getPet :
    Operation.read .none "get" getPet (.list [sharedPetId ("type", .str "array")]) =
      Operation.read .none "get" getPet (.list [sharedPetId ("type", .str "string")]) :=
  (overridden_replaced [] [] getPet_declares (goesBy_sharedPetId _) (goesBy_sharedPetId _) rfl).1 _ rfl

/-- Whether an operation is read alike whatever stands in a parameter that it overrides. -/
def OverriddenIgnored (links : Links) (verb : String) (v : Value) : Prop :=
  ∀ name location before u u' after, Operation.Declares links name location v → GoesBy links name location u →
    GoesBy links name location u' → Operation.read links verb v (.list (before ++ u' :: after)) =
      Operation.read links verb v (.list (before ++ u :: after))

/-- A format that is no text is a fault, though the parameter is overridden. -/
theorem not_overriddenIgnored : ¬ OverriddenIgnored .none "get" getPet := by
  intro ignored
  have same := ignored "petId" .path [] (sharedPetId ("type", .str "string")) (sharedPetId ("format", .int 5)) []
    getPet_declares (goesBy_sharedPetId _) (goesBy_sharedPetId _)
  have fails : Operation.read .none "get" getPet (.list [sharedPetId ("format", .int 5)]) = .error .invalidField := rfl
  have reads : (Operation.read .none "get" getPet (.list [sharedPetId ("type", .str "string")])).isOk = true := rfl
  rw [List.nil_append, List.nil_append, fails] at same
  rw [← same] at reads
  cases reads

end TypedClient.Schema
