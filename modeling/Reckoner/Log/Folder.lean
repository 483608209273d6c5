import Reckoner.Log.Route

/-! A folder of log files, and what can come of opening one. -/

namespace Reckoner.Log

/-- The files with their contents, in the order in which they were made. A file outside the folder has a slash in its
name. -/
structure Folder where
  files : List (String × String) := []
  deriving DecidableEq, Repr

/-- Why a path cannot be opened as a file. -/
inductive Obstacle
  | missing
  | directory
  | notDirectory
  | tooLong
  | nullCharacter
  deriving DecidableEq, Repr

/-- What the system makes of an attempt to open a path: the file that it leads to, by the name that the file has in
the folder, or what stands in the way. The next attempt may go otherwise. -/
abbrev Opening := String → Except Obstacle String

/-- The most bytes in one name. -/
def maxName : Nat := 255

/-- The most bytes in a path. -/
def maxPath : Nat := 4095

namespace Folder

def holds (folder : Folder) (name : String) : Bool :=
  folder.files.any (·.1 = name)

/-- Follows names, the first one first, from a directory. -/
def follow (folder : Folder) (directories : List String) (base : String) : List String → Except Obstacle String
  | [] => .error .directory
  | name :: rest =>
    if maxName < name.utf8ByteSize then .error .tooLong
    else if directories.contains (base ++ name) then folder.follow directories (base ++ name ++ "/") rest
    else if rest.isEmpty then .ok (base ++ name)
    else if folder.holds (base ++ name) then .error .notDirectory
    else .error .missing

/-- Opening files where there are no directories but the root, those on the way to the folder, and the given ones. -/
def locate (folder : Folder) (directories : List String) : Opening := fun path =>
  let route := Route.ofPath path
  if route.text.toList.contains '\x00' then .error .nullCharacter
  else if maxPath < route.text.utf8ByteSize then .error .tooLong
  else folder.follow directories route.origin.text route.names.reverse

/-- A file that is there already is kept as it is. -/
def create (folder : Folder) (name : String) : Folder :=
  if folder.holds name then folder else ⟨folder.files ++ [(name, "")]⟩

def append (folder : Folder) (name text : String) : Folder :=
  ⟨folder.files.map fun file => if file.1 = name then (file.1, file.2 ++ text) else file⟩

/-- The files in the folder itself. -/
def listed (folder : Folder) : List (String × String) :=
  folder.files.filter fun file => !file.1.toList.contains '/'

end Folder
end Reckoner.Log
