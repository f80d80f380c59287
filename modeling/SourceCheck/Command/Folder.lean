/-! # Reading input files

A folder is a list of files by their paths. A path is followed name by name from the folder; what
lies outside the folder is not known.
-/

namespace SourceCheck.Command

inductive ReadError
  | notFound
  | denied
  | notDirectory
  | isDirectory
  | nameTooLong
  | invalidText
  deriving DecidableEq, Repr

def ReadError.message : ReadError → String
  | notFound => "No such file or directory (os error 2)"
  | denied => "Permission denied (os error 13)"
  | notDirectory => "Not a directory (os error 20)"
  | isDirectory => "Is a directory (os error 21)"
  | nameTooLong => "File name too long (os error 36)"
  | invalidText => "stream did not contain valid UTF-8"

def decodeText (bytes : ByteArray) : Except ReadError String :=
  match String.fromUTF8? bytes with
  | some s => .ok s
  | none => .error .invalidText

/-- The longest name and the longest path, in bytes. -/
def maxName : Nat := 255

def maxPath : Nat := 4095

/-- The names of a path. A final slash gives an empty last name. -/
def pathNames (path : String) : List String :=
  (path.split '/').toList.map (·.toString)

/-- A folder's files, each by the names of its path. -/
structure Folder where
  files : List (List String × ByteArray)

namespace Folder

/-- Where a path leads. -/
inductive Place
  | file (bytes : ByteArray)
  /-- A directory of the folder, by its names from the innermost out. -/
  | inside (names : List String)
  | above

def entry (folder : Folder) (names : List String) (name : String) : Except ReadError Place :=
  let path := (name :: names).reverse
  match folder.files.find? (·.1 == path) with
  | some (_, bytes) => .ok (.file bytes)
  | none =>
    if folder.files.any fun (other, _) => path.isPrefixOf other then .ok (.inside (name :: names))
    else .error .notFound

def follow (folder : Folder) (place : Place) (name : String) : Except ReadError Place :=
  match place with
  | .file _ => .error .notDirectory
  | .inside names =>
    if name = "" ∨ name = "." then .ok place
    else if name = ".." then
      match names with
      | [] => .ok .above
      | _ :: outer => .ok (.inside outer)
    else if maxName < name.utf8ByteSize then .error .nameTooLong
    else folder.entry names name
  | .above =>
    if name = "" ∨ name = "." ∨ name = ".." then .ok place
    else if maxName < name.utf8ByteSize then .error .nameTooLong
    else .error .notFound

def read (folder : Folder) (path : String) : Except ReadError String := do
  if path = "" then throw .notFound
  if maxPath < path.utf8ByteSize then throw .nameTooLong
  let start := if path.startsWith '/' then Place.above else .inside []
  match ← (pathNames path).foldlM folder.follow start with
  | .file bytes => decodeText bytes
  | .inside _ | .above => throw .isDirectory

end Folder

end SourceCheck.Command
