import TypedClient.Proofs.Completion
import TypedClient.Proofs.FileText
import TypedClient.Proofs.LegalNames
import TypedClient.Proofs.Rendering
import TypedClient.Proofs.TidyNames

/-!
# The name of the interface

The class of the interface is defined in one file of the package, and two others import it. All of them have its name
from the component, whatever text that is.

**What is proved.** `className_legal`: every text is made into a valid name, a valid one into itself. So the class of
the interface has a valid name; the file that defines it has a line that says so, and in the files of the client and
of the package that name, and no other, is imported from there.
-/

namespace TypedClient.Client

open Api Source Text

/-! ## Names as lines -/

theorem isLine_argumentName (s : String) : IsLine (argumentName s) := by
  have none : isAlphanumeric '\t' = false ∧ isAlphanumeric '\r' = false ∧ isAlphanumeric '\n' = false := by
    decide +kernel
  refine isLine_of_all (p := fun c => isAlphanumeric c || c == '_') (fun c member => ?_) (by simp [none])
  have plain := (isTidy_argumentName s).tidy.made c member
  simpa using plain

/-! ## Definition and imports -/

/-- The line that imports a class from the module of the interface. -/
def importLine (c : String) : String := "from .interface import " ++ c

/-- The line that a class of the interface begins with. -/
def classLine (c : String) : String := "class " ++ c ++ "(ApiInterface):"

/-- A package whose interface has a valid name, is defined under it in the one file for that, and is imported under it
by the client and the package. -/
structure NamesInterface (p : Project) (c : String) : Prop where
  legal : isValidName c = true
  defined : ∃ file decl, p.files.filter (·.name == "interface.py") = [file] ∧ file.classes = [(c, decl)] ∧
    decl.name = c ∧ classLine c ∈ linesOf file.text
  imported : ∀ name ∈ ["client.py", "__init__.py"], ∃ file, p.files.filter (·.name == name) = [file] ∧
    ∀ other, importLine other ∈ linesOf file.text ↔ other = c

theorem isLine_importLine {c : String} (line : IsLine c) : IsLine (importLine c) :=
  isLine_append.mpr ⟨by decide, line⟩

/-- A line that imports nothing from the module of the interface. -/
structure Aside (line : String) : Prop where
  isLine : IsLine line
  apart : ¬ "from .interface ".toList <+: line.toList

instance (line : String) : Decidable (Aside line) :=
  decidable_of_iff (IsLine line ∧ ¬ "from .interface ".toList <+: line.toList)
    ⟨fun ⟨h, g⟩ => ⟨h, g⟩, fun ⟨h, g⟩ => ⟨h, g⟩⟩

/-- A line that begins with other characters. -/
theorem aside_append {front rest : String} (begun : Aside front) (line : IsLine rest)
    (other : ¬ front.toList <+: "from .interface ".toList) : Aside (front ++ rest) := by
  refine ⟨isLine_append.mpr ⟨begun.isLine, line⟩, fun begins => ?_⟩
  rw [String.toList_append] at begins
  exact (List.prefix_or_prefix_of_prefix begins (List.prefix_append _ _)).elim begun.apart other

theorem importLine_eq (c : String) : importLine c = "from .interface " ++ ("import " ++ c) := by
  rw [← String.append_assoc]
  rfl

theorem importLine_not_mem {lines : List String} (aside : ∀ line ∈ lines, Aside line) (c : String) :
    importLine c ∉ lines := by
  intro member
  refine (aside _ member).apart ?_
  rw [importLine_eq, String.toList_append]
  exact List.prefix_append _ _

/-- In a file of code with one import line the class of that line, and no other, is imported. -/
theorem importLine_mem_codeFile (name : String) {before after : List String} {last c : String}
    (aside : ∀ line ∈ before, Aside line) (aside' : ∀ line ∈ after, Aside line) (ending : Aside last)
    (written : last ≠ "") (line : IsLine c) (other : String) : importLine other ∈
      linesOf (codeFile name (joinLines (before ++ importLine c :: after ++ [last, ""]))).text ↔ other = c := by
  have each : ∀ line ∈ before ++ importLine c :: after ++ [last], IsLine line := by
    intro l member
    simp only [List.mem_append, List.mem_cons, List.not_mem_nil, or_false] at member
    rcases member with (member | rfl | member) | rfl
    · exact (aside l member).isLine
    · exact isLine_importLine line
    · exact (aside' l member).isLine
    · exact ending.isLine
  have lasts : ∀ line ∈ [last, ""], Aside line := List.forall_mem_cons.mpr ⟨ending, by decide⟩
  rw [linesOf_codeFile name each written, List.mem_append, List.mem_append, List.mem_cons,
    or_iff_right (importLine_not_mem aside other), or_iff_left (importLine_not_mem aside' other),
    or_iff_left (importLine_not_mem lasts other)]
  exact String.append_right_inj _

/-- The client imports the class of the interface and no other from its module. -/
theorem importLine_mem_client {c module : String} (line : IsLine c) (held : IsLine module) (other : String) :
    importLine other ∈ linesOf (codeFile "client.py" (clientCode c module)).text ↔ other = c := by
  have rest : IsLine (module ++ (" = " ++ c ++ "(self)")) := by
    simp only [isLine_append, line, held]
    decide
  have code : clientCode c module = joinLines (["from simple_singleton import Singleton", "",
      "from .common import AiohttpClient"] ++ importLine c :: ["", "",
      "class ApiClient(AiohttpClient, metaclass=Singleton):", "    def __init__(self) -> None:",
      "        super().__init__()"] ++ ["        self." ++ (module ++ (" = " ++ c ++ "(self)")), ""]) := by
    rw [← String.append_assoc, ← String.append_assoc, ← String.append_assoc]
    exact congrArg joinLines rfl
  rw [code]
  have ending : Aside ("        self." ++ (module ++ (" = " ++ c ++ "(self)"))) :=
    aside_append (by decide) rest (by decide)
  exact importLine_mem_codeFile _ (by decide) (by decide) ending (by simp) line other

/-- So does the package. -/
theorem importLine_mem_package {c : String} (line : IsLine c) (other : String) :
    importLine other ∈ linesOf (codeFile "__init__.py" (packageCode c)).text ↔ other = c := by
  have rest : IsLine (c ++ "\", \"enums\", \"models\"]") := isLine_append.mpr ⟨line, by decide⟩
  have code : packageCode c = joinLines (["from .client import ApiClient"] ++ importLine c ::
      ["from . import enums, models", ""] ++
        ["__all__ = [\"ApiClient\", \"" ++ (c ++ "\", \"enums\", \"models\"]"), ""]) := by
    rw [← String.append_assoc]
    exact congrArg joinLines rfl
  rw [code]
  have ending : Aside ("__all__ = [\"ApiClient\", \"" ++ (c ++ "\", \"enums\", \"models\"]")) :=
    aside_append (by decide) rest (by decide)
  exact importLine_mem_codeFile _ (by decide) (by decide) ending (by simp) line other

/-! ## The package -/

theorem moduleName_eq_ok {settings : Settings} {module : String} (h : moduleName settings = .ok module) :
    ∃ s, module = argumentName s := by
  obtain ⟨_, _, h⟩ := bind_eq_ok.mp h
  obtain ⟨_, _, heq⟩ := bind_eq_ok.mp h
  exact ⟨_, (Except.ok.inj heq).symm⟩

/-- The class of the interface has its name, and the file of the interface the line for it. -/
theorem classLine_mem_interface {names : ClassNames} {c description : String} {methods : List Method} {f : File}
    (h : interfaceFile names c description methods = .ok f) (line : IsLine c) :
    ∃ decl, f.classes = [(c, decl)] ∧ decl.name = c ∧ classLine c ∈ linesOf f.text := by
  obtain ⟨functions, _, classes, _⟩ := interfaceFile_eq_ok h
  let decl : ClassDecl := { name := c, bases := ["ApiInterface"], description := some description, functions }
  have header : decl.header = classLine c := by
    have based : "(" ++ ", ".intercalate ["ApiInterface"] ++ ")" ++ ":" = "(ApiInterface):" := by decide
    rw [classLine, ← based, ← String.append_assoc]
    rfl
  have stored : decl ∈ f.classes.values := by
    rw [classes]
    exact List.mem_singleton_self decl
  have whole : IsLine (classLine c) := isLine_append.mpr ⟨isLine_append.mpr ⟨by decide, line⟩, by decide⟩
  rw [← header] at whole
  exact ⟨decl, classes, rfl, header ▸ header_mem_linesOf stored whole⟩

/-- **The interface of every package is named by its class.** -/
theorem namesInterface_of_package {settings : Settings} {d : Description} {p : Project}
    (h : package settings d = .ok p) : NamesInterface p (className d.interface.name) := by
  have legal := isValidName_className d.interface.name
  have line := isLine_of_isValidName legal
  obtain ⟨models, interface, module, _, made, held, files⟩ := files_named h
  obtain ⟨words, rfl⟩ := moduleName_eq_ok held
  obtain ⟨decl, classes, named, written⟩ := classLine_mem_interface made line
  refine ⟨legal, ⟨interface, decl, files _ _ (by simp), classes, named, written⟩, fun name member => ?_⟩
  rcases List.mem_pair.mp member with rfl | rfl
  · exact ⟨_, files _ _ (by simp), importLine_mem_client line (isLine_argumentName words)⟩
  · exact ⟨_, files _ _ (by simp), importLine_mem_package line⟩

theorem interface_name_describe (links : Links) (settings : Settings) (document : Schema.Document) :
    (describe links settings document).1.interface.name = settings.interfaceName := rfl

/-- **The class of the interface has a legal name**, whatever the component is called, and it is imported under it.
The name of a class is valid, whatever it is made of; a valid name stays as it is, so that nothing changes the
second time. -/
theorem className_legal :
    (∀ s, isValidName (className s) = true ∧ (isValidName s = true → className s = s) ∧
      className (className s) = className s) ∧
    ∀ settings links document,
      (∀ p, package settings (describe links settings document).1 = .ok p →
        NamesInterface p (className settings.interfaceName)) ∧
      (settings.WellTyped → (∃ text, Toml.write settings.toTable = .ok text) →
        ∃ p, package settings (describe links settings document).1 = .ok p) := by
  refine ⟨fun s => ⟨isValidName_className s, className_of_isValidName, ?_⟩, fun settings links document => ⟨?_, ?_⟩⟩
  · exact className_of_isValidName (isValidName_className s)
  · intro p h
    rw [← interface_name_describe links settings document]
    exact namesInterface_of_package h
  · intro typed written
    exact package_completes typed written (describe_wellFormed links settings document)

/-- The settings of a component whose name is not legal. -/
def shopSettings : Settings := { componentName := .str "my shop!" }

/-- Its interface is known by the words of the name. -/
theorem className_legal_shop : className "none" = "none" ∧
    ∃ p, package shopSettings (describe .none shopSettings {}).1 = .ok p ∧ NamesInterface p "MyShopApiInterface" := by
  obtain ⟨names, packages⟩ := className_legal
  obtain ⟨named, made⟩ := packages shopSettings .none {}
  obtain ⟨p, h⟩ := made ⟨rfl, rfl, rfl, rfl, rfl, rfl⟩ ⟨_, rfl⟩
  have shop : className shopSettings.interfaceName = "MyShopApiInterface" := by decide +kernel
  exact ⟨(names "none").2.1 (by decide +kernel), p, h, shop ▸ named p h⟩

end TypedClient.Client
