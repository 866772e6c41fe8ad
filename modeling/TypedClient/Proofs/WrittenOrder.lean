import TypedClient.Proofs.Completion
import TypedClient.Proofs.LegalNames
import TypedClient.Proofs.Rendering
import TypedClient.Source.Reading

/-!
# The order of a file

Classes and blocks are added to a file one after the other. A class takes the place of an earlier one of its name, with
an order of its own; a block never takes another's place. When the file is written, they are sorted.

**What is proved.** `written_in_order`: whatever is added, each block and, for each name, the last class is written
once. The higher order comes first; of equal order the blocks come before the classes, the blocks as they were added
and the classes as their names were. So in the file of the models the classes are rebuilt behind the last of them.

`after_eq` says what one step does to a file, and `afterAll_eq`, by induction on the steps, what all of them do. That
the sort is stable is `filter_sortedItems`: what is of equal order is written as it is stored.
-/

namespace TypedClient

namespace Source

/-! ## Items in order -/

/-- The text of a file from its imports and, below them, its items. -/
def layout (imports : List String) (items : List Item) : String :=
  expandTabs ("\n\n\n".intercalate ((if imports.isEmpty then [] else ["\n".intercalate imports]) ++
    items.map fun i => dropLineEnds i.text)) ++ "\n"

/-- Blocks and classes in the order in which they are written: each of them once, the higher order first, and of each
order the blocks and then the classes, as they come. -/
structure Written (blocks : List Block) (classes : List ClassDecl) (items : List Item) : Prop where
  all : items.Perm (blocks.map .block ++ classes.map .class)
  order : items.Pairwise fun a b => b.order ≤ a.order
  ties : ∀ n, items.filter (·.order == n) =
    (blocks.filter (·.order == n)).map .block ++ (classes.filter (·.order == n)).map .class

/-- The order of items in a file is transitive. -/
theorem decide_order_trans (a b c : Item) (first : decide (b.order ≤ a.order) = true)
    (second : decide (c.order ≤ b.order) = true) : decide (c.order ≤ a.order) = true := by
  simp only [decide_eq_true_eq] at *
  omega

/-- And total. -/
theorem decide_order_total (a b : Item) : (decide (b.order ≤ a.order) || decide (a.order ≤ b.order)) = true := by
  simp only [Bool.or_eq_true, decide_eq_true_eq]
  omega

/-- Items of one order are in order, however they come. -/
theorem pairwise_of_order {items : List Item} {n : Int} (equal : ∀ i ∈ items, i.order = n) :
    items.Pairwise fun a b => decide (b.order ≤ a.order) = true := by
  apply List.pairwise_of_forall_mem_list
  intro a ha b hb
  simp [equal a ha, equal b hb]

theorem sortedItems_perm (f : File) : f.sortedItems.Perm f.items := List.mergeSort_perm ..

theorem sortedItems_pairwise (f : File) : f.sortedItems.Pairwise fun a b => b.order ≤ a.order :=
  (List.pairwise_mergeSort decide_order_trans decide_order_total f.items).imp of_decide_eq_true

/-- **Items of equal order are written as they are stored.** -/
theorem filter_sortedItems (f : File) (n : Int) :
    f.sortedItems.filter (·.order == n) = f.items.filter (·.order == n) := by
  have equal : ∀ i ∈ f.items.filter (·.order == n), i.order = n := by
    intro i member
    simpa using (List.mem_filter.mp member).2
  -- a sort keeps what is in order already, so the sorted items have these among them as they are
  have kept :=
    List.sublist_mergeSort decide_order_trans decide_order_total (pairwise_of_order equal) List.filter_sublist
  have part := kept.filter (·.order == n)
  rw [List.filter_filter, List.filter_congr fun _ _ => Bool.and_self _] at part
  have same := ((sortedItems_perm f).filter (·.order == n)).length_eq
  exact (part.eq_of_length same.symm).symm

/-- **The items of a file are written in order.** -/
theorem sortedItems_written (f : File) : Written f.blocks f.classes.values f.sortedItems where
  all := sortedItems_perm f
  order := sortedItems_pairwise f
  ties := by
    intro n
    rw [filter_sortedItems, File.items, List.filter_append, List.filter_map, List.filter_map]
    rfl

theorem text_eq_layout (f : File) : f.text = layout f.imports f.sortedItems := rfl

/-- Items of no order are written as they come. -/
theorem mergeSort_plain {items : List Item} (plain : ∀ i ∈ items, i.order = 0) :
    items.mergeSort (fun a b => decide (b.order ≤ a.order)) = items :=
  List.mergeSort_of_pairwise (pairwise_of_order plain)

/-- One of a lower order is put behind them. -/
theorem mergeSort_behind {items : List Item} {last : Item} (plain : ∀ i ∈ items, i.order = 0) (low : last.order < 0) :
    (last :: items).mergeSort (fun a b => decide (b.order ≤ a.order)) = items ++ [last] := by
  obtain ⟨front, back, whole, rest, _⟩ := List.mergeSort_cons decide_order_trans decide_order_total last items
  rw [mergeSort_plain plain] at rest
  have sorted := List.pairwise_mergeSort decide_order_trans decide_order_total (last :: items)
  rw [whole, List.pairwise_append] at sorted
  have none : back = [] := by
    refine List.eq_nil_iff_forall_not_mem.mpr fun b member => ?_
    have below := of_decide_eq_true ((List.pairwise_cons.mp sorted.2.1).1 b member)
    rw [plain b (rest ▸ List.mem_append_right _ member)] at below
    omega
  rw [whole, rest, none, List.append_nil]

/-- An item that is written last stands behind two empty lines. -/
theorem layout_concat (imports : List String) {items : List Item} (inhabited : items ≠ []) (last : Item) :
    layout imports (items ++ [last]) =
      layout imports items ++ ("\n\n" ++ expandTabs (dropLineEnds last.text) ++ "\n") := by
  have apart : expandTabs "\n\n\n" = "\n" ++ "\n\n" := by decide
  rw [layout, List.map_append, ← List.append_assoc,
    String.intercalate_append_of_ne_nil (by simp [inhabited]) (by simp), expandTabs_append, expandTabs_append, apart,
    List.map_singleton, String.intercalate_singleton, layout]
  simp only [String.append_assoc]

/-! ## Steps -/

/-- A step that adds a class or a block, when that can be read. -/
inductive Step.IsAddition : Step → Prop
  | ofClass (c : Except Fault ClassDecl) : IsAddition (.addClass c)
  | ofBlock (b : Except Fault Block) : IsAddition (.addBlock b)

/-- The block that a step adds. -/
def Step.block? : Step → Option Block
  | .addBlock (.ok b) => some b
  | _ => none

/-- The class that a step adds, under its name. -/
def Step.class? : Step → Option (String × ClassDecl)
  | .addClass (.ok c) => some (c.name, c)
  | _ => none

/-- The file after a step, the same when the step fails. -/
def File.after (f : File) (s : Step) : File := (f.apply s).toOption.getD f

/-- The file after one step after the other. -/
def File.afterAll (f : File) (steps : List Step) : File := steps.foldl File.after f

section

variable {f : File} {s : Step} {steps : List Step}

/-- What an addition does to a file: a block goes behind the others, a class under its name. -/
theorem after_eq (h : s.IsAddition) : f.after s =
    { f with blocks := f.blocks ++ s.block?.toList, classes := f.classes.putAll s.class?.toList } := by
  have none : f = { f with blocks := f.blocks ++ [], classes := f.classes.putAll [] } := by
    rw [List.append_nil]
    rfl
  cases h with
  | ofClass c =>
    cases c with
    | ok c => exact congrArg (fun blocks => { f.addClass c with blocks }) (List.append_nil f.blocks).symm
    | error fault => exact none
  | ofBlock b =>
    cases b with
    | ok b => rfl
    | error fault => exact none

/-- **What a file has after additions**: behind its blocks those that were added, and over its classes those that
were. -/
theorem afterAll_eq (h : ∀ s ∈ steps, s.IsAddition) : f.afterAll steps =
    { f with
      blocks := f.blocks ++ steps.filterMap Step.block?
      classes := f.classes.putAll (steps.filterMap Step.class?) } := by
  induction steps generalizing f with
  | nil => exact congrArg (fun blocks => { f with blocks }) (List.append_nil f.blocks).symm
  | cons s rest ih =>
    obtain ⟨first, later⟩ := List.forall_mem_cons.mp h
    have concat : ∀ {α : Type} (g : Step → Option α), (s :: rest).filterMap g = (g s).toList ++ rest.filterMap g := by
      intro α g
      cases added : g s <;> simp [added]
    have next : f.afterAll (s :: rest) = (f.after s).afterAll rest := rfl
    rw [next, ih later, after_eq first, concat, concat, Fields.putAll_append, List.append_assoc]

end

/-! ## What is written -/

/-- What stands in a file after steps, beside what stood there: the blocks in the order in which they were added, and
under each name, in the order in which the names were, the class that was stored last. -/
structure Stored (f : File) (steps : List Step) (after : File) : Prop where
  imports : after.imports = f.imports
  blocks : after.blocks = f.blocks ++ steps.filterMap Step.block?
  names : after.classes.names = (f.classes ++ steps.filterMap Step.class?).names.eraseDups
  last : ∀ before name c later, f.classes ++ steps.filterMap Step.class? = before ++ (name, c) :: later →
    name ∉ Fields.names later → after.classes.get? name = some c

/-- **What is added is stored.** -/
theorem stored_afterAll {f : File} {steps : List Step} (additions : ∀ s ∈ steps, s.IsAddition)
    (distinct : f.classes.names.Nodup) : Stored f steps (f.afterAll steps) := by
  have whole : (f.afterAll steps).classes = Fields.ofPairs (f.classes ++ steps.filterMap Step.class?) := by
    have first : Fields.putAll [] f.classes = f.classes := Fields.ofPairs_eq_self distinct
    rw [afterAll_eq additions, Fields.ofPairs, Fields.putAll_append, first]
  refine ⟨?_, ?_, ?_, fun before name c later stored fresh => ?_⟩
  · rw [afterAll_eq additions]
  · rw [afterAll_eq additions]
  · rw [whole, Fields.names_ofPairs]
  · have behind : Fields.get? later.reverse name = none := by
      rw [Fields.get?_eq_none, Fields.names, List.map_reverse, List.mem_reverse]
      exact fresh
    rw [whole, stored, Fields.get?_ofPairs, List.reverse_append, List.reverse_cons, List.append_assoc,
      Fields.get?_append, behind]
    simp [Fields.get?]

end Source

namespace Client

open Source Api Text

/-- The line that rebuilds a class. -/
def rebuildLine (c : String) : String := c ++ ".model_rebuild()"

/-- A file whose classes are rebuilt in their order behind the last of them, as adding the classes and then the block
for that would have it. -/
structure RebuildsLast (f : File) : Prop where
  steps : f = File.afterAll { name := f.name, imports := f.imports }
    (f.classes.values.map (fun c => .addClass (.ok c)) ++ f.blocks.map fun b => .addBlock (.ok b))
  items : f.sortedItems = f.classes.values.map .class ++ f.blocks.map .block
  lines : linesOf f.text = linesOf { f with blocks := [] }.text ++
    if f.classes.isEmpty then [] else "" :: f.classes.values.map (fun c => rebuildLine c.name) ++ [""]

section

variable {d : Description} {f : File}

/-- The classes of the models are under their own names, which are valid, and none comes before the others. -/
theorem classes_of_modelsFile (h : modelsFile (namesOf d) d.models = .ok f) :
    ∀ p ∈ f.classes, p.2.name = p.1 ∧ isValidName p.1 = true ∧ p.2.order = 0 := by
  intro p member
  have rendered : p.1 ∈ f.classes.names := List.mem_map_of_mem member
  rw [names_modelsFile h] at rendered
  obtain ⟨q, _, same, made⟩ := exists_of_mem_right (modelsFile_eq_ok h).1 member
  obtain ⟨_, _, decl⟩ := modelClass_eq_ok made
  rw [decl, ← same]
  exact ⟨rfl, isValidName_models d _ ((ClassNames.mem_values_models d).mpr (same ▸ rendered)), rfl⟩

theorem blocks_of_modelsFile {names : ClassNames} {models : List ModelType} (h : modelsFile names models = .ok f) :
    f.blocks = rebuildBlocks f.classes.names := by
  rw [names_modelsFile h]
  obtain ⟨_, _, heq⟩ := bind_eq_ok.mp h
  cases heq
  rfl

theorem distinct_of_modelsFile {names : ClassNames} {models : List ModelType} (h : modelsFile names models = .ok f) :
    f.classes.names.Nodup := by
  rw [names_modelsFile h]
  exact nodup_names_modelsByClass names models

theorem isLine_rebuildLines {classes : List String} (valid : ∀ c ∈ classes, isValidName c = true) :
    ∀ line ∈ classes.map rebuildLine, IsLine line := by
  intro line member
  obtain ⟨c, written, rfl⟩ := List.mem_map.mp member
  exact isLine_append.mpr ⟨isLine_of_isValidName (valid c written), by decide⟩

/-- The lines that rebuild the classes are written as they are. -/
theorem expandTabs_rebuild {classes : List String} (inhabited : classes ≠ [])
    (valid : ∀ c ∈ classes, isValidName c = true) (order : Int) :
    expandTabs (dropLineEnds (Item.text (.block { code := joinLines (classes.map rebuildLine), order }))) =
      joinLines (classes.map rebuildLine) := by
  have each := isLine_rebuildLines valid
  have clean := isClean_joinLines each
  have text : Item.text (.block { code := joinLines (classes.map rebuildLine), order }) =
      joinLines (classes.map rebuildLine) := expandTabs_clean clean
  have ended : (joinLines (classes.map rebuildLine)).toList.getLast? ≠ some '\n' := by
    cases classes using List.reverseRecOn with
    | nil => exact absurd rfl inhabited
    | append_singleton front last =>
      rw [List.map_append, List.map_singleton] at each ⊢
      exact getLast?_joinLines (each _ (by simp)) (by simp [rebuildLine])
  rw [text, dropLineEnds_of_ended ended, expandTabs_clean clean]

theorem order_of_modelsFile (h : modelsFile (namesOf d) d.models = .ok f) :
    ∀ i ∈ f.classes.values.map Item.class, i.order = 0 := by
  intro i member
  obtain ⟨c, value, rfl⟩ := List.mem_map.mp member
  obtain ⟨p, stored, rfl⟩ := List.mem_map.mp value
  exact (classes_of_modelsFile h p stored).2.2

/-- The items of the file of the models are its classes and, behind them, the block that rebuilds them. -/
theorem sortedItems_modelsFile (h : modelsFile (namesOf d) d.models = .ok f) :
    f.sortedItems = f.classes.values.map .class ++ f.blocks.map .block := by
  rw [File.sortedItems, File.items, blocks_of_modelsFile h, rebuildBlocks]
  split
  · rw [List.map_nil, List.nil_append, List.append_nil, mergeSort_plain (order_of_modelsFile h)]
  · exact mergeSort_behind (order_of_modelsFile h) (by simp [Item.order])

/-- Adding the classes and then the block makes the file of the models. -/
theorem afterAll_modelsFile (h : modelsFile (namesOf d) d.models = .ok f) :
    f = File.afterAll { name := f.name, imports := f.imports }
      (f.classes.values.map (fun c => .addClass (.ok c)) ++ f.blocks.map fun b => .addBlock (.ok b)) := by
  have named : f.classes.values.map (fun c => (c.name, c)) = f.classes := by
    rw [Fields.values, List.map_map]
    conv_rhs => rw [← List.map_id f.classes]
    exact List.map_congr_left fun p member => Prod.ext (classes_of_modelsFile h p member).1 rfl
  have added : Fields.putAll [] f.classes = f.classes := Fields.ofPairs_eq_self (distinct_of_modelsFile h)
  rw [afterAll_eq]
  · simp [List.filterMap_append, List.filterMap_map, Step.block?, Step.class?, Function.comp_def, named, added]
  · intro s member
    rcases List.mem_append.mp member with member | member
    · obtain ⟨c, _, rfl⟩ := List.mem_map.mp member
      exact .ofClass _
    · obtain ⟨b, _, rfl⟩ := List.mem_map.mp member
      exact .ofBlock _

/-- **The lines that rebuild the models stand behind the last class**, one for each. -/
theorem linesOf_modelsFile (h : modelsFile (namesOf d) d.models = .ok f) :
    linesOf f.text = linesOf { f with blocks := [] }.text ++
      if f.classes.isEmpty then [] else "" :: f.classes.values.map (fun c => rebuildLine c.name) ++ [""] := by
  have blocks := blocks_of_modelsFile h
  have items := sortedItems_modelsFile h
  have above : { f with blocks := [] }.text = layout f.imports (f.classes.values.map .class) := by
    have plain := mergeSort_plain (order_of_modelsFile h)
    exact congrArg (layout f.imports) plain
  have names : f.classes.values.map (fun c => rebuildLine c.name) = f.classes.names.map rebuildLine := by
    rw [Fields.values, Fields.names, List.map_map, List.map_map]
    exact List.map_congr_left fun p member => congrArg rebuildLine (classes_of_modelsFile h p member).1
  rw [text_eq_layout, items, above, names]
  split
  · next none =>
    rw [blocks, Fields.names, List.isEmpty_iff.mp none]
    simp [rebuildBlocks]
  · next inhabited =>
    have written : f.classes.names ≠ [] := by simpa [Fields.names] using inhabited
    have block : f.blocks.map Item.block =
        [.block { code := joinLines (f.classes.names.map rebuildLine), order := -100 }] := by
      rw [blocks, rebuildBlocks, if_neg (by simpa using written)]
      rfl
    have valid : ∀ c ∈ f.classes.names, isValidName c = true := by
      intro c member
      obtain ⟨p, stored, rfl⟩ := List.mem_map.mp member
      exact (classes_of_modelsFile h p stored).2.1
    rw [block, layout_concat _ (by simpa [Fields.values] using inhabited), expandTabs_rebuild written valid,
      linesOf_behind, linesOf_joinLines (by simpa using written) (isLine_rebuildLines valid)]

/-- **The classes of the models are rebuilt behind the last of them.** -/
theorem rebuildsLast_of_modelsFile (h : modelsFile (namesOf d) d.models = .ok f) : RebuildsLast f :=
  ⟨afterAll_modelsFile h, sortedItems_modelsFile h, linesOf_modelsFile h⟩

end

/-- **What is added to a file is written in order.** After any additions, some of which may fail, the imports stand
above each block and, for each name, the last class: the higher order first, of equal order the blocks before the
classes, both as they were added, a class where the first of its name was. So the models of every package are rebuilt
behind the last of them, each on a line of its own. -/
theorem written_in_order :
    (∀ (f : File) (steps : List Step), (∀ s ∈ steps, s.IsAddition) → f.classes.names.Nodup →
      Stored f steps (f.afterAll steps) ∧ ∃ items, (f.afterAll steps).text = layout f.imports items ∧
        Written (f.afterAll steps).blocks (f.afterAll steps).classes.values items) ∧
    ∀ settings d p, package settings d = .ok p →
      ∃ models, p.files.filter (·.name == "models.py") = [models] ∧ RebuildsLast models := by
  refine ⟨fun f steps additions distinct => ?_, fun settings d p h => ?_⟩
  · have stored := stored_afterAll additions distinct
    refine ⟨stored, (f.afterAll steps).sortedItems, ?_, sortedItems_written _⟩
    rw [text_eq_layout, stored.imports]
  · obtain ⟨models, _, _, made, _, _, files⟩ := files_named h
    exact ⟨models, files _ _ (by simp), rebuildsLast_of_modelsFile made⟩

/-- Two classes and two blocks; one class is replaced by another of a higher order, and one cannot be read. -/
def mixedSteps : List Step :=
  [.addClass (.ok { name := "A" }), .addBlock (.ok { code := "x = 1" }), .addClass (.error .invalidField),
   .addClass (.ok { name := "B", order := 1 }), .addClass (.ok { name := "A", bases := ["B"], order := 1 }),
   .addBlock (.ok { code := "y = 2", order := 1 })]

example : (File.afterAll { name := "f.py" } mixedSteps).text =
    "y = 2\n\n\nclass A(B):\n    pass\n\n\nclass B:\n    pass\n\n\nx = 1\n" := by
  cbv

/-- A description with two models. -/
def petsAndOwners : Description :=
  { interface := ⟨"ApiInterface", []⟩, models := [{ name := "Pet" }, { name := "Owner" }] }

/-- What is of order one is written in the order of the blocks and then of the names; and the models of a package are
rebuilt at its end. -/
theorem written_in_order_mixed :
    (∃ items, (File.afterAll { name := "f.py" } mixedSteps).text = layout [] items ∧
      items.filter (·.order == 1) = [.block { code := "y = 2", order := 1 },
        .class { name := "A", bases := ["B"], order := 1 }, .class { name := "B", order := 1 }]) ∧
    ∃ p models, package {} petsAndOwners = .ok p ∧ p.files.filter (·.name == "models.py") = [models] ∧
      RebuildsLast models := by
  obtain ⟨added, packages⟩ := written_in_order
  refine ⟨?_, ?_⟩
  · have additions : ∀ s ∈ mixedSteps, s.IsAddition := by
      simp [mixedSteps, Step.IsAddition.ofClass, Step.IsAddition.ofBlock]
    obtain ⟨_, items, text, ordered⟩ := added { name := "f.py" } mixedSteps additions List.nodup_nil
    exact ⟨items, text, (ordered.ties 1).trans rfl⟩
  · have formed : petsAndOwners.WellFormed := ⟨by simp [petsAndOwners, ModelType.WellFormed], nofun⟩
    obtain ⟨p, made⟩ := @package_completes {} ⟨rfl, rfl, rfl, rfl, rfl, rfl⟩ ⟨_, rfl⟩ _ formed
    obtain ⟨models, only, rebuilt⟩ := packages _ _ p made
    exact ⟨p, models, made, only, rebuilt⟩

end Client

end TypedClient
