import BlockTypes.Catalog.Standard
import BlockTypes.Config.Settings
import BlockTypes.Log.Level

/-!
# Loading catalogues

A catalogue is loaded from a configuration file, or is the standard one when the settings name no
file. Setting a program up loads its settings, sets the level of the log and loads the catalogue, in
that order, so that the new level counts for what the log is told about the catalogue, and stays if
the catalogue cannot be loaded.
-/

namespace BlockTypes

namespace Catalog

/-- Why a catalogue could not be loaded. -/
inductive LoadError where
  | config (error : Config.Error)
  | log (error : Log.SetupError)
  | catalog (error : Error)

/-- The standard catalogue. -/
def loadStandard (s : Store) : Except LoadError (Catalog × Store) :=
  (ofEntries s Standard.document).mapError .catalog

/-- The catalogue of a configuration file. -/
def loadFile (s : Store) (files : Config.Files) (path : Config.Path) :
    Except LoadError (Catalog × Store) := do
  let entries ← (Config.load files path).mapError .config
  (ofEntries s entries).mapError .catalog

/-- The catalogue that the settings name. -/
def loadFor (s : Store) (files : Config.Files) (catalog : Option Config.Path) :
    Except LoadError (Catalog × Store) :=
  match catalog with
  | none => loadStandard s
  | some path => loadFile s files path

/-- What setting a program up gives: the level of the log, and the catalogue. -/
structure Setup where
  level : Log.Level
  result : Except LoadError (Catalog × Store)

/-- Sets a program up from the settings at a path, or at the one that the environment names. -/
def setup (s : Store) (files : Config.Files) (environment path : Option String)
    (level : Log.Level) : Setup :=
  match Config.Settings.load files environment path with
  | .error e => ⟨level, .error (.config e)⟩
  | .ok settings =>
    match Log.configure level (some settings.logLevel) false with
    | .error e => ⟨level, .error (.log e)⟩
    | .ok level => ⟨level, loadFor s files settings.catalog⟩

end Catalog

end BlockTypes
