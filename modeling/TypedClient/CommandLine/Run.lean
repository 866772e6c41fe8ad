import TypedClient.Api.Describe
import TypedClient.Client.Package
import TypedClient.CommandLine.Arguments
import TypedClient.Schema.Loading
import TypedClient.SettingsFile

/-!
# A run of the command line

A run reads settings, loads schemas, generates packages and writes them. It is a function of the
arguments and of the files and the web it finds, and yields the lines it prints, the events on the way
and the files it leaves. A fault that the tool reports ends the run with a message and an exit code of
one; any other fault leaves the run as it is. A package is generated as a whole before any of its files
is written.
-/

namespace TypedClient.CommandLine

open Files

/-- The surroundings of a run: the path of the working directory from the root, and the web. -/
structure Surroundings where
  workingDirectory : String := "/"
  web : Fields Schema.Reply := []

/-- What a run has done so far. -/
structure Progress where
  files : FileTree
  lines : List String := []
  events : List Event := []

/-- A part of a run. -/
abbrev Task := ExceptT Fault (StateM Progress)

/-- Prints a line. -/
def say (line : String) : Task Unit :=
  modify fun p => { p with lines := p.lines ++ [line] }

/-- Notes events. -/
def note (events : List Event) : Task Unit :=
  modify fun p => { p with events := p.events ++ events }

/-- Changes the files. What has changed stays when the change fails. -/
def change (f : FileTree → FileTree × Except Fault Unit) : Task Unit := do
  let p ← get
  let (files, done) := f p.files
  set { p with files }
  done

/-- The directories with a settings file, as they are shown: the working directory as a point, the
others below it. -/
def settingsDirectories (files : FileTree) : List String :=
  let shown := files.directories.map fun names => "/".intercalate ("." :: names)
  shown.filter fun directory => files.exists? (Path.join directory Settings.fileName)

/-- The packages in the tree: the directories with settings that name a source. -/
def findPackages (files : FileTree) : Except Fault (List (String × Settings)) := do
  let found ← (settingsDirectories files).mapM fun directory => do
    return (directory, ← Settings.readFile files (Path.join directory Settings.fileName))
  return found.filter fun p => p.2.source.truthy

/-- How many failures there are among events. -/
def failureCount (events : List Event) : Nat := (failures events).length

/-- The description of a schema. The name of the interface is needed once the enumerations are there. -/
def describe (settings : Settings) (loaded : Schema.Outcome) :
    Task (Api.Description × List Event) := do
  if let .error fault := settings.componentName.shown then
    note (Api.extractEnums loaded.links loaded.document).2
    throw fault
  let (description, events) := Api.describe loaded.links settings loaded.document
  note events
  return (description, events)

/-- Generates the package for settings that name a source. -/
def generate (surroundings : Surroundings) (settings : Settings) : Task Source.Project := do
  if !settings.source.truthy then throw .sourceNotSet
  let source ← settings.source.shown
  say ("🚀 Генерация интерфейса из " ++ source)
  say "📥 Загрузка схемы..."
  let origin : Schema.Origin := ⟨(← get).files, surroundings.workingDirectory, surroundings.web⟩
  let loaded ← origin.schema settings.source
  note loaded.events
  say "⚙️ Генерация кода..."
  let (description, events) ← describe settings loaded
  if description.isEmpty then
    note [.notice (.nothingGenerated source)]
    say "⚠️ Не сгенерировано ни одного метода, модели или enum"
  let count := failureCount (loaded.events ++ events)
  if count ≠ 0 then say ("⚠️ Пропущено фрагментов схемы: " ++ toString count)
  let _ ← Client.packageName settings
  note (Client.renamings description)
  Client.package settings description

/-- Writes a file of a package into a directory. -/
def writeFile (directory : String) (file : String × String) : Task Unit := do
  let path := Path.join directory file.1
  change (·.makeDirectories (Path.parent path))
  change fun files =>
    match files.writeText path file.2 with
    | .ok written => (written, .ok ())
    | .error fault => (files, .error fault)

/-- Writes a package into a directory, which must be given as a text. -/
def save (surroundings : Surroundings) (project : Source.Project) (directory : Value) : Task Unit := do
  let files := Client.packageFiles project
  say ("💾 Сохранение " ++ toString files.length ++ " файлов...")
  let directory ← match directory with
    | .str s => pure s
    | _ => throw .notIterable
  files.forM (writeFile directory)
  say "✅ Генерация завершена успешно!"
  say ("📦 Интерфейс создан в: " ++ Path.absolute surroundings.workingDirectory directory)

/-- Generates a package and writes it into a directory. -/
def generateInto (surroundings : Surroundings) (settings : Settings) (directory : Value) :
    Task Unit := do
  save surroundings (← generate surroundings settings) directory

/-- Generates every package in the tree anew. All settings are read first. -/
def runAll (surroundings : Surroundings) : Task Nat := do
  let packages ← findPackages (← get).files
  if packages.isEmpty then
    say "❌ Пакеты с swagger.toml не найдены"
    return 1
  packages.forM fun (directory, settings) => do
    say ("\n📍 Пакет: " ++ directory)
    generateInto surroundings settings (.str directory)
  return 0

/-- The settings with the default directory when none is set. -/
def withDirectory (s : Settings) : Settings :=
  if s.dirname.truthy then s else { s with dirname := .str Settings.defaultDirname }

/-- The settings of a run for one package: those of the file that is found, if any, with the arguments
put over them. -/
def settingsFor (arguments : SettingArguments) : Task Settings := do
  let found ← Settings.find? (← get).files Settings.fileName arguments.dirname
  if found.isSome then say ("📋 Используется конфиг " ++ Settings.fileName)
  return withDirectory (← (found.getD {}).merge arguments)

/-- Writes the settings to their file. -/
def saveSettings (settings : Settings) : Task Unit := do
  let p ← get
  let (files, written) := settings.save p.files Settings.fileName
  set { p with files }
  let _ ← written
  say ("✅ Создан конфиг файл " ++ Settings.fileName)

/-- Generates one package, or writes its settings only. -/
def runOne (surroundings : Surroundings) (o : Options) : Task Nat := do
  let settings ← settingsFor o.settings
  if o.initConfig then
    saveSettings settings
    return 0
  if !settings.source.truthy then
    say "❌ Ошибка: Укажите --source или создайте конфиг с --init-config"
    return 1
  say ("📁 Директория: " ++ (← settings.dirname.shown))
  generateInto surroundings settings settings.dirname
  return 0

/-- A run with understood arguments. A reported fault becomes a message and an exit code. -/
def runOptions (surroundings : Surroundings) (o : Options) : Task Nat :=
  tryCatch (if o.all then runAll surroundings else runOne surroundings o) fun fault => do
    if fault.isReported then
      say ("❌ Ошибка генерации: " ++ fault.explanation)
      return 1
    else throw fault

/-- What a run comes to: its exit code, or the fault that left it, and what it has done. -/
structure Outcome where
  exit : Except Fault Nat
  progress : Progress

/-- What is printed in a run, line by line. -/
def Outcome.output (o : Outcome) : String := String.join (o.progress.lines.map (· ++ "\n"))

/-- A run of the command line. -/
def run (surroundings : Surroundings) (files : FileTree) (arguments : List String) : Outcome :=
  match Request.read arguments with
  | .refused => ⟨.ok 2, { files }⟩
  | .help => ⟨.ok 0, { files }⟩
  | .run o =>
    let (exit, progress) := (runOptions surroundings o).run.run { files }
    ⟨exit, progress⟩

end TypedClient.CommandLine
