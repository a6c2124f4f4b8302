import BlockTypes.Check
import BlockTypes.Config.Data
import BlockTypes.Signature.Basic

/-!
# Catalogues

A catalogue holds the type classes and the functions that programs may use, each function with a
category. The signature of a function is a template: references to it are given copies. Names come
from configuration documents, where a key is usually a text, but may be any scalar.
-/

namespace BlockTypes

open Config (Scalar Data)

/-- A function of a catalogue. -/
structure FunctionInfo where
  name : Scalar
  category : Scalar
  signature : Ty
deriving DecidableEq

/-- The function with its signature. -/
def FunctionInfo.text (s : Store) (f : FunctionInfo) : String :=
  f.name.shown ++ " :: " ++ s.text f.signature

/-- Type classes by name, and functions in the order in which they were added. -/
structure Catalog where
  classes : List (Scalar × TypeClass)
  functions : List FunctionInfo
deriving DecidableEq

namespace Catalog

/-- The catalogue without classes and functions. -/
def empty : Catalog := ⟨[], []⟩

instance : EmptyCollection Catalog := ⟨empty⟩

instance : Inhabited Catalog := ⟨∅⟩

/-- Why a catalogue cannot be built or added to. -/
inductive Error where
  | unknownSections (keys : List Scalar)
  | keysNotSortable
  | sectionNotMapping (name : String)
  | categoryNotMapping (name : Scalar)
  | instancesNotNames (className : Scalar)
  | duplicate (name : Scalar)
  | signatureNotText (name : Scalar) (got : Data)
  | notShowable
  | invalidSignature (name : Scalar) (error : Signature.Error)

/-- The error in words. -/
def Error.message : Error → String
  | unknownSections keys => "Unknown catalog sections: " ++ Scalar.listText keys
  | keysNotSortable => ""
  | sectionNotMapping name => "Catalog " ++ name ++ " must be a mapping"
  | categoryNotMapping name => "Catalog category " ++ name.quoted ++ " must be a mapping"
  | instancesNotNames name =>
    "Instances of class " ++ name.quoted ++ " must be a list of type names"
  | duplicate name => "Function " ++ name.quoted ++ " is defined more than once"
  | signatureNotText name got =>
    "Signature of " ++ name.quoted ++ " must be a string, got " ++ got.quoted
  | notShowable => Config.notShowableMessage
  | invalidSignature name e => "Invalid signature for " ++ name.quoted ++ ": " ++ e.message

/-! ## Questions -/

/-- The function of the given name. -/
def find? (c : Catalog) (name : Scalar) : Option FunctionInfo :=
  c.functions.find? (·.name.SameKey name)

/-- The type class of the given name. -/
def class? (c : Catalog) (name : Scalar) : Option TypeClass := c.classes.lookup name

/-- The classes that signatures may name. -/
def signatureClasses (c : Catalog) : Signature.Classes := fun name => c.class? (.text name)

/-- The categories in the order of their first functions. -/
def categories (c : Catalog) : List Scalar := Scalar.distinct (c.functions.map (·.category))

/-- The functions of a category, in the order in which they were added. -/
def functionsIn (c : Catalog) (category : Scalar) : List FunctionInfo :=
  c.functions.filter (·.category.Equals category)

/-- Why a name could not be looked up. -/
inductive LookupError where
  | unknownClass (name : String) (available : List Scalar)
  | unknownFunction (name : String)
  | keysNotSortable
deriving DecidableEq

/-- The error in words. -/
def LookupError.message : LookupError → String
  | unknownClass name available =>
    "Unknown type class " ++ Text.quote name ++ ". Available: " ++ Scalar.listText available
  | unknownFunction name => "Unknown function " ++ Text.quote name
  | keysNotSortable => ""

/-- The function of the given name, or the error that there is none. -/
def lookup (c : Catalog) (name : String) : Except LookupError FunctionInfo :=
  match c.find? (.text name) with
  | some f => .ok f
  | none => .error (.unknownFunction name)

/-- The type class of the given name, or the error that there is none. -/
def typeClass (c : Catalog) (name : String) : Except LookupError TypeClass :=
  match c.class? (.text name) with
  | some cls => .ok cls
  | none =>
    match Scalar.sorted? (c.classes.map (·.1)) with
    | some names => .error (.unknownClass name names)
    | none => .error .keysNotSortable

/-! ## Building -/

/-- Adds a function, given the text of its signature. -/
def add (c : Catalog) (s : Store) (name category : Scalar) (text : Data) :
    Except Error (FunctionInfo × Catalog × Store) :=
  if (c.find? name).isSome then .error (.duplicate name)
  else
    match text with
    | .scalar (.text text) =>
      match s.ofSignature c.signatureClasses text with
      | .error e => .error (.invalidSignature name e)
      | .ok (signature, s) =>
        let f : FunctionInfo := ⟨name, category, signature⟩
        .ok (f, { c with functions := c.functions ++ [f] }, s)
    | got => .error (if got.isShowable then .signatureNotText name got else .notShowable)

/-- The entries of a part of a catalogue, which is a mapping or left out. -/
def part (error : Error) (data : Data) : Except Error (List (Scalar × Data)) :=
  match data.opened with
  | .scalar .null => .ok []
  | .map entries => .ok entries
  | _ => .error error

/-- One class and the names of its instances. -/
def readClass (entry : Scalar × Data) : Except Error (Scalar × TypeClass) :=
  match entry.2.texts? with
  | some names => .ok (entry.1, ⟨entry.1.written, .ofList names⟩)
  | none => .error (.instancesNotNames entry.1)

/-- Adds the functions of a category. -/
def addAll (category : Scalar) : Catalog × Store → List (Scalar × Data) →
    Except Error (Catalog × Store)
  | cs, [] => .ok cs
  | (c, s), (name, text) :: rest =>
    match c.add s name category text with
    | .error e => .error e
    | .ok (_, c, s) => addAll category (c, s) rest

/-- Adds the functions of all categories. -/
def addCategories : Catalog × Store → List (Scalar × Data) → Except Error (Catalog × Store)
  | cs, [] => .ok cs
  | cs, (category, data) :: rest =>
    match part (.categoryNotMapping category) data with
    | .error e => .error e
    | .ok entries =>
      match addAll category cs entries with
      | .error e => .error e
      | .ok cs => addCategories cs rest

/-- The catalogue that a mapping describes: its sections are the classes and the functions. All
classes are known before the first signature is read. -/
def ofEntries (s : Store) (entries : List (Scalar × Data)) : Except Error (Catalog × Store) := do
  let unknown := Config.unknownKeys entries ["classes", "functions"]
  unless unknown.isEmpty do
    match Scalar.sorted? unknown with
    | some keys => throw (.unknownSections keys)
    | none => throw .keysNotSortable
  let classes ← part (.sectionNotMapping "classes") (Data.get entries (.text "classes"))
  let classes ← classes.mapM readClass
  let functions ← part (.sectionNotMapping "functions") (Data.get entries (.text "functions"))
  addCategories (⟨classes, []⟩, s) functions

/-- What the log is told about a catalogue that was loaded. -/
def loaded (c : Catalog) : Log.Entry := .catalog c.classes.length c.functions.length

/-! ## Blocks -/

/-- A new reference to a function of the catalogue. -/
def ident (c : Catalog) (w : Workspace) (name : String) : Except LookupError (Expr × Workspace) :=
  (c.lookup name).map fun f => w.ident name f.signature

/-- A new value whose type is given as a signature. -/
def value (c : Catalog) (w : Workspace) (typeText text : String) :
    Except Signature.Error (Expr × Workspace) :=
  (w.store.ofSignature c.signatureClasses typeText).map fun (t, s) =>
    { w with store := s }.value t text

end Catalog

end BlockTypes
