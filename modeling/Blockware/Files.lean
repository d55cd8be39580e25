import Blockware.Text.Bytes

/-!
# Directories and files

The files that a program reads: a value, so that what is read depends on nothing else.

- `Location`: a place among the directories, as the way to it from the working directory or from the
  root.
- `Files.locate`: where a path leads. A path is followed name by name; each name but the last must be
  that of a directory, and a separator at the end says that the last one is a directory too.
- `Files.read`: the text of a file, or why it cannot be read.
- `Files.write`, `Files.writeBytes`, `Files.makeDirectory`, `Files.delete`: changes. A change that the
  path does not allow changes nothing.
-/

namespace Blockware

/-- What a path leads to. -/
inductive FileEntry where
  | text (content : String)
  /-- Bytes that are no text in UTF-8. -/
  | binary
  | directory
  deriving DecidableEq

/-- Why a file cannot be read. -/
inductive FileFault where
  | notFound
  | isDirectory
  | notDirectory
  | nameTooLong
  | notText
  /-- No file can have a name with the character of code zero in it. -/
  | zeroInName
  /-- Any other reason, in words. -/
  | other (reason : String)
  deriving DecidableEq

/-- The wording. -/
def FileFault.message : FileFault → String
  | .notFound => "No such file or directory (os error 2)"
  | .isDirectory => "Is a directory (os error 21)"
  | .notDirectory => "Not a directory (os error 20)"
  | .nameTooLong => "File name too long (os error 36)"
  | .notText => "stream did not contain valid UTF-8"
  | .zeroInName => "file name contained an unexpected NUL byte"
  | .other reason => reason

/-! ### Locations -/

/-- The name of a file in its directory. -/
abbrev FileName := List Char

/-- A directory from which a way begins. -/
inductive Base where
  /-- The directory that is in no other one. -/
  | root
  /-- The working directory, or the one so many levels above it. -/
  | above (levels : Nat)
  deriving DecidableEq

/-- The directory that holds a base. The root is taken to hold itself. -/
def Base.parent : Base → Base
  | .root => .root
  | .above levels => .above (levels + 1)

/-- A place among the directories: where the way to it begins, and the names on it, the last one
first. -/
structure Location where
  base : Base
  names : List FileName
  deriving DecidableEq

namespace Location

/-- The place of a name in a directory. -/
def child (l : Location) (name : FileName) : Location := { l with names := name :: l.names }

/-- The directory that holds a place. -/
def parent (l : Location) : Location :=
  match l.names with
  | _ :: rest => { l with names := rest }
  | [] => { l with base := l.base.parent }

end Location

/-! ### Paths -/

/-- The most bytes that a name may have. -/
def maxNameBytes : Nat := 255

/-- The most bytes that a path may have. -/
def maxPathBytes : Nat := 4095

/-- The names of a path that goes on with some characters after those of `name`, the last one first. -/
def pathNames (name : List Char) : List Char → List FileName
  | [] => [name.reverse]
  | c :: rest =>
    if c = '/' then name.reverse :: pathNames [] rest else pathNames (c :: name) rest

/-- Where the way of a path begins. -/
def pathStart (path : String) : Location :=
  match path.toList with
  | '/' :: _ => ⟨.root, []⟩
  | _ => ⟨.above 0, []⟩

/-- Whether a name stands for no file of its own: an empty one, as between two separators, or one that
means the directory itself or the one above. -/
def isRelativeName (name : FileName) : Bool :=
  name.isEmpty || name == ['.'] || name == ['.', '.']

/-- What is known of the files: the entries at some locations. Bases are directories. -/
structure Files where
  entries : List (Location × FileEntry) := []

namespace Files

/-- What there is at a location. -/
def entry? (f : Files) (l : Location) : Option FileEntry :=
  if l.names.isEmpty then some .directory
  else (f.entries.find? fun e => e.1 == l).map Prod.snd

/-- Follows a name from a location, which must be that of a directory. -/
def enter (f : Files) (l : Location) (name : FileName) : Except FileFault Location :=
  if f.entry? l ≠ some .directory then .error .notDirectory
  else if name = ['.', '.'] then .ok l.parent
  else if isRelativeName name then .ok l
  else if maxNameBytes < Text.utf8Length name then .error .nameTooLong
  else if (f.entry? (l.child name)).isNone then .error .notFound
  else .ok (l.child name)

/-- Why no file at all can have a path. -/
def pathFault? (path : String) : Option FileFault :=
  if path.toList.any (·.toNat == 0) then some .zeroInName
  else if path.isEmpty then some .notFound
  else if maxPathBytes < path.utf8ByteSize then some .nameTooLong
  else none

/-- Where a path leads. -/
def locate (f : Files) (path : String) : Except FileFault Location :=
  match pathFault? path with
  | some fault => .error fault
  | none => (pathNames [] path.toList).foldlM f.enter (pathStart path)

/-- The text of a file. -/
def read (f : Files) (path : String) : Except FileFault String := do
  match f.entry? (← f.locate path) with
  | some (.text content) => return content
  | some .binary => .error .notText
  | some .directory => .error .isDirectory
  | none => .error .notFound

/-! ### Changes -/

/-- Puts an entry at a location. -/
def put (f : Files) (l : Location) (entry : FileEntry) : Files :=
  ⟨(l, entry) :: f.entries.filter fun e => e.1 != l⟩

/-- Where a path says that a file should be: in a directory that there is, under a name of its own. -/
def target? (f : Files) (path : String) : Option Location := do
  let names := pathNames [] path.toList
  let name ← names.getLast?
  let l ← (names.dropLast.foldlM f.enter (pathStart path)).toOption
  if (pathFault? path).isSome || isRelativeName name || f.entry? l ≠ some .directory ||
      maxNameBytes < Text.utf8Length name then none
  else some (l.child name)

/-- Writes a file, which may be there already. -/
def writeEntry (f : Files) (path : String) (entry : FileEntry) : Files :=
  match f.target? path with
  | some l => if f.entry? l = some .directory then f else f.put l entry
  | none => f

/-- Writes a text. -/
def write (f : Files) (path content : String) : Files := f.writeEntry path (.text content)

/-- Writes bytes. -/
def writeBytes (f : Files) (path : String) (bytes : ByteArray) : Files :=
  f.writeEntry path (((String.fromUTF8? bytes).map FileEntry.text).getD .binary)

/-- Follows names from a location and makes the directories that are not there. -/
def makeAlong (f : Files) (l : Location) : List FileName → Files
  | [] => f
  | name :: rest =>
    match f.enter l name with
    | .ok next => f.makeAlong next rest
    | .error .notFound => (f.put (l.child name) .directory).makeAlong (l.child name) rest
    | .error _ => f

/-- Makes a directory and those on the way to it. -/
def makeDirectory (f : Files) (path : String) : Files :=
  if (pathFault? path).isSome then f
  else f.makeAlong (pathStart path) (pathNames [] path.toList)

/-- Removes a file. -/
def delete (f : Files) (path : String) : Files :=
  match f.locate path with
  | .ok l =>
    if f.entry? l = some .directory then f else ⟨f.entries.filter fun e => e.1 != l⟩
  | .error _ => f

end Files
end Blockware
