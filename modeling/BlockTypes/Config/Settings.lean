import BlockTypes.Config.Files
import BlockTypes.Config.Yaml.Document
import BlockTypes.Text.Upper

/-!
# Settings

Settings are read from a configuration file: the catalogue to load, and the level of the log. A
relative path of the catalogue counts from the directory of the settings file.
-/

namespace BlockTypes.Config

/-- Why a configuration file or the settings in it cannot be used. -/
inductive Error where
  | notFound (path : Path)
  | isDirectory
  | nameTooLong
  | notText
  | document (fault : Yaml.Fault)
  | rootNotMapping
  | unknownKeys (keys : List Scalar)
  | keysNotSortable
  | catalogNotPath
  | levelNotText (value : Data)
  | notShowable

/-- The error in words. Some errors are told by their kind alone and have none. -/
def Error.message : Error → String
  | notFound path => "configuration file not found: " ++ path.text
  | document fault => fault.message
  | rootNotMapping => "configuration root must be a mapping"
  | unknownKeys keys => "unknown configuration keys: " ++ Scalar.listText keys
  | levelNotText value => "log_level must be a string, got " ++ value.quoted
  | notShowable => notShowableMessage
  | isDirectory => ""
  | nameTooLong => ""
  | notText => ""
  | keysNotSortable => ""
  | catalogNotPath => ""

/-- The text with every line end written as a line feed. -/
def unixLines : List Char → List Char
  | '\r' :: '\n' :: rest => '\n' :: unixLines rest
  | '\r' :: rest => '\n' :: unixLines rest
  | c :: rest => c :: unixLines rest
  | [] => []

/-- The entries of the mapping that a configuration file holds; an empty document has none. -/
def load (files : Files) (path : Path) : Except Error (List (Scalar × Data)) :=
  match files.find path with
  | .missing => .error (.notFound path)
  | .directory => .error .isDirectory
  | .tooLong => .error .nameTooLong
  | .file content =>
    match String.fromUTF8? content with
    | none => .error .notText
    | some text =>
      match (Yaml.parse (String.ofList (unixLines text.toList))).map Data.opened with
      | .error fault => .error (.document fault)
      | .ok (.map entries) => .ok entries
      | .ok (.scalar .null) => .ok []
      | .ok _ => .error .rootNotMapping

/-- What a program is set to. -/
structure Settings where
  catalog : Option Path
  logLevel : WideText
deriving DecidableEq

namespace Settings

/-- The settings where none are given. -/
def standard : Settings := ⟨none, "WARNING"⟩

/-- The settings of a mapping; `base` is where relative paths count from. -/
def ofEntries (entries : List (Scalar × Data)) (base : Option Path) : Except Error Settings := do
  let unknown := Config.unknownKeys entries ["catalog", "log_level"]
  unless unknown.isEmpty do
    match Scalar.sorted? unknown with
    | some keys => throw (.unknownKeys keys)
    | none => throw .keysNotSortable
  let catalog ← match Data.get entries (.text "catalog") with
    | .scalar .null => pure none
    | .scalar (.text text) => pure (some ((base.getD ⟨"", []⟩).join (.ofText text.shown)))
    | _ => throw .catalogNotPath
  let logLevel ← match entries.lookup (.text "log_level") with
    | none => pure standard.logLevel
    | some (.scalar (.text text)) => pure text.upper
    | some value => throw (if value.isShowable then .levelNotText value else .notShowable)
  return ⟨catalog, logLevel⟩

/-- Whether the environment can hold the text, which must not have a null character. -/
def isStorable (text : String) : Bool := !hasNull text

/-- Loads the settings from the path that is given, or else from the one that the environment names.
Without either the standard ones hold. -/
def load (files : Files) (environment : Option String) (path : Option String) :
    Except Error Settings :=
  match (path.or environment).getD "" with
  | "" => .ok standard
  | text => do
    let path := Path.ofText text
    ofEntries (← Config.load files path) (some path.parent)

end Settings

end BlockTypes.Config
