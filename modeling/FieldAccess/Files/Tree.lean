import FieldAccess.Text.Trim

/-!
# Files

Files with the paths by which they are found, and the faults of reading and writing them.

## Main definitions

* `FileFault` – why a file cannot be read or written.
* `FileTree` – the files that paths lead to.
* `FileTree.read`, `FileTree.exists`, `FileTree.write` – looking at a path, and writing to it.
-/

namespace FieldAccess

/-- Why a file cannot be read or written. -/
inductive FileFault where
  | notFound
  | notADirectory
  | isADirectory
  | nameTooLong
  | holdsNul
  | notUnicode
  deriving Repr, DecidableEq, Inhabited

/-- The wording of a fault. -/
def FileFault.message : FileFault → String
  | notFound => "No such file or directory (os error 2)"
  | notADirectory => "Not a directory (os error 20)"
  | isADirectory => "Is a directory (os error 21)"
  | nameTooLong => "File name too long (os error 36)"
  | holdsNul => "file name contained an unexpected NUL byte"
  | notUnicode => "stream did not contain valid UTF-8"

/-- The files that paths lead to. Names are those on the way from the top. -/
structure FileTree where
  /-- The directory from which relative paths start. -/
  directory : List String
  /-- The files, each with its text; a file of other bytes has none. -/
  files : List (List String × Option String)
  /-- Further directories: those on the way to a file or to the start need not be among them. -/
  directories : List (List String) := []
  /-- What stands in files of other bytes in front of the first byte that belongs to no text. -/
  leads : List (List String × String) := []
  deriving Repr, Inhabited

namespace FileTree

/-- The parts of a path. -/
def parts (path : String) : List String :=
  (Text.splitOn (· = '/') path.toList).map String.ofList

/-- The parts of a path that are names. -/
def names (path : String) : List String :=
  (parts path).filter (!·.isEmpty)

/-- The files of a directory, given by paths that start there. -/
def ofList (directory : String) (files : List (String × String)) : FileTree where
  directory := names directory
  files := files.map fun (path, text) => (names directory ++ names path, some text)

/-- The names on the way from the top to a path that is looked at from a directory. -/
def resolve (directory : List String) (path : String) : List String :=
  (parts path).foldl (fun here part =>
    if part = "" || part = "." then here
    else if part = ".." then here.dropLast
    else here ++ [part]) (if path.startsWith "/" then [] else directory)

/-- The path of names from the top. -/
def pathOf (names : List String) : String := "/" ++ "/".intercalate names

/-- What a path leads to. -/
inductive Place where
  | directory
  | file (names : List String) (text : Option String)
  /-- Nothing is there, but a file could be. -/
  | free (names : List String)
  deriving Repr

/-- Whether names lead to a directory. -/
def isDirectory (tree : FileTree) (names : List String) : Bool :=
  names.isPrefixOf tree.directory || tree.directories.any (names.isPrefixOf ·) ||
    tree.files.any fun (file, _) => names.isPrefixOf file && names ≠ file

/-- The longest name that a file can have, in bytes. -/
def maxNameSize : Nat := 255

/-- Follows the parts of a path from a directory. The directory above the top is the top. -/
def follow (tree : FileTree) :
    (names : List String) → (parts : List String) → Except FileFault Place
  | _, [] => .ok .directory
  | names, part :: rest =>
    if part = "" || part = "." then follow tree names rest
    else if part = ".." then follow tree names.dropLast rest
    else if maxNameSize < part.utf8ByteSize then .error .nameTooLong
    else
      let here := names ++ [part]
      match tree.files.lookup here with
      | some text => if rest.isEmpty then .ok (.file here text) else .error .notADirectory
      | none =>
        if tree.isDirectory here then follow tree here rest
        else if rest.isEmpty then .ok (.free here)
        else .error .notFound

/-- What a path leads to. -/
def place (tree : FileTree) (path : String) : Except FileFault Place :=
  if path.isEmpty then .error .notFound
  else if path.toList.contains (Char.ofNat 0) then .error .holdsNul
  else tree.follow (if path.startsWith "/" then [] else tree.directory) (parts path)

/-- The text of a file. -/
def read (tree : FileTree) (path : String) : Except FileFault String := do
  match ← tree.place path with
  | .directory => throw .isADirectory
  | .file _ (some text) => return text
  | .file _ none => throw .notUnicode
  | .free _ => throw .notFound

/-- Whether something is at a path. -/
def exists? (tree : FileTree) (path : String) : Bool :=
  match tree.place path with
  | .ok .directory | .ok (.file ..) => true
  | _ => false

/-- Whether a path can only lead to a directory. -/
def namesDirectory (path : String) : Bool := path.endsWith "/"

/-- The path without the slashes at its end. -/
def withoutSlash (path : String) : String :=
  String.ofList (path.toList.reverse.dropWhile (· = '/')).reverse

/-- Writes a text to a file, in the place of one that is there. -/
def write (tree : FileTree) (path text : String) : Except FileFault FileTree := do
  if namesDirectory path && withoutSlash path ≠ "" then
    let _ ← tree.place (withoutSlash path)
    throw .isADirectory
  match ← tree.place path with
  | .directory => throw .isADirectory
  | .file names _ | .free names =>
    return { tree with files := (names, some text) :: tree.files.filter (·.1 ≠ names) }

end FileTree

end FieldAccess
