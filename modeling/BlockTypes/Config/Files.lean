import BlockTypes.Config.Path

/-!
# Files

The files and directories below a working directory. A place is given by the names that lead to it
from the working directory, where two dots stand only in front and lead to the directories above.
Those exist; of what else lies outside the working directory nothing is known before it is written.
Names and paths have a greatest length in bytes, and no null character.
-/

namespace BlockTypes.Config

/-- The names that lead to a file or directory from the working directory. -/
abbrev Location := List String

namespace Location

/-- The directory above. -/
def up (l : Location) : Location := if l.all (· = "..") then l ++ [".."] else l.dropLast

/-- The place that a name leads to; two dots lead to the directory above. -/
def enter (l : Location) (name : String) : Location := if name = ".." then l.up else l ++ [name]

end Location

/-- The most bytes that a name has. -/
def nameLimit : Nat := 255

/-- What a path has fewer bytes than. -/
def pathLimit : Nat := 4096

/-- Whether a name is too long for a file or directory. -/
def isLongName (name : String) : Bool := nameLimit < name.utf8ByteSize

/-- Whether a path is too long as a whole. -/
def Path.isLong (p : Path) : Bool := pathLimit ≤ p.text.utf8ByteSize

/-- Whether the text has a null character. -/
def hasNull (text : String) : Bool := text.toList.contains (Char.ofNat 0)

/-- The complaint about a null character. -/
def nullMessage : String := "embedded null byte"

/-- The directories and files that were made. -/
structure Files where
  directories : List Location
  contents : List (Location × ByteArray)

/-- What a path leads to. -/
inductive FileEntry where
  | file (content : ByteArray)
  | directory
  | missing
  | tooLong

/-- Why a file could not be written. -/
inductive WriteError where
  /-- There is a directory in its place. -/
  | isDirectory
  /-- A directory is to be made where there is a file. -/
  | fileInPlace
  /-- The path leads through a file. -/
  | throughFile
  /-- A name in it, or the path itself, is too long. -/
  | tooLong
  /-- It has a null character. -/
  | null
deriving DecidableEq

namespace Files

instance : EmptyCollection Files := ⟨⟨[], []⟩⟩

/-- What there is at a place. -/
def entry (files : Files) (l : Location) : FileEntry :=
  if l.getLast?.any isLongName then .tooLong
  else if l.all (· = "..") || files.directories.contains l then .directory
  else
    match files.contents.lookup l with
    | some content => .file content
    | none => .missing

/-- What the names lead to from a directory. Every name but the last has to lead to a directory, also
one that two dots leave again. -/
def walk (files : Files) (dir : Location) : List String → FileEntry
  | [] => .directory
  | name :: rest =>
    match files.entry (dir.enter name) with
    | .directory => files.walk (dir.enter name) rest
    | .file content => if rest.isEmpty then .file content else .missing
    | .missing => .missing
    | .tooLong => .tooLong

/-- What a path leads to. A root has nothing below it but itself. -/
def find (files : Files) (p : Path) : FileEntry :=
  if hasNull p.text then .missing
  else if p.isLong then .tooLong
  else if p.isAbsolute then
    match p.parts.dropWhile (· = "..") with
    | [] => .directory
    | name :: _ => if isLongName name then .tooLong else .missing
  else files.walk [] p.parts

/-- Makes the directories that the names lead to where they are missing, and says where they end.
Once a directory was `made`, or at the last name, a file is in the way of a directory; before that it
is the path that leads through the file. -/
def makeDirectories (files : Files) (made : Bool) (dir : Location) :
    List String → Files × Except WriteError Location
  | [] => (files, .ok dir)
  | name :: rest =>
    let here := dir.enter name
    match files.entry here with
    | .directory => files.makeDirectories made here rest
    | .file _ => (files, .error (if made || rest.isEmpty then .fileInPlace else .throughFile))
    | .missing => { files with directories := here :: files.directories }.makeDirectories true here rest
    | .tooLong => (files, .error .tooLong)

/-- Puts a file at a place that is not a directory's. -/
def put (files : Files) (l : Location) (content : ByteArray) : Files × Except WriteError Unit :=
  match files.entry l with
  | .directory => (files, .error .isDirectory)
  | .tooLong => (files, .error .tooLong)
  | _ => ({ files with contents := (l, content) :: files.contents.filter (·.1 ≠ l) }, .ok ())

/-- Writes a file, after making the directories on the way to it. Those stay if it cannot be
written. What is written at an absolute path lies elsewhere. -/
def write (files : Files) (p : Path) (content : ByteArray) : Files × Except WriteError Unit :=
  if p.isAbsolute then (files, .ok ())
  else
    match p.parts.getLast? with
    | none => (files, .error .isDirectory)
    | some name =>
      if hasNull p.parent.text then (files, .error .null)
      else if p.parent.isLong then (files, .error .tooLong)
      else
        match files.makeDirectories false [] p.parts.dropLast with
        | (files, .error e) => (files, .error e)
        | (files, .ok dir) =>
          if hasNull name then (files, .error .null)
          else if p.isLong then (files, .error .tooLong)
          else files.put (dir.enter name) content

end Files

end BlockTypes.Config
