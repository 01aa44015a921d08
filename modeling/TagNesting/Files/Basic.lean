/-!
# Files

What the program can see of the files around it: which paths lead to a regular file, and the text of
a file or the reason why there is none.
-/

namespace TagNesting

/-- Why a file yields no text. -/
inductive ReadFault where
  /-- There is nothing at the path. -/
  | notFound
  /-- There is a directory at the path. -/
  | isDirectory
  /-- The path leads through a file. -/
  | notDirectory
  /-- A name on the path, or the path itself, is too long. -/
  | nameTooLong
  /-- The path holds the character that ends paths. -/
  | nulInName
  /-- The bytes are not Unicode text. -/
  | notText
  /-- Another reason, in the words of the system. -/
  | other (reason : String)
  deriving DecidableEq, Repr

/-- The wording of the reason. -/
def ReadFault.message : ReadFault → String
  | .notFound => "No such file or directory (os error 2)"
  | .isDirectory => "Is a directory (os error 21)"
  | .notDirectory => "Not a directory (os error 20)"
  | .nameTooLong => "File name too long (os error 36)"
  | .nulInName => "file name contained an unexpected NUL byte"
  | .notText => "stream did not contain valid UTF-8"
  | .other reason => reason

/-- **What can be seen of the files.** -/
structure Files where
  /-- Whether a path leads to a regular file. -/
  isFile : String → Bool
  /-- The text of the file at a path. -/
  read : String → Except ReadFault String

namespace Files

/-- The first path of a list that leads to a regular file. -/
def discover (files : Files) (candidates : List String) : Option String :=
  candidates.find? files.isFile

/-- Whether a path starts at the root. -/
def isAbsolute (path : String) : Bool := path.toList.head? = some '/'

/-- A path inside a directory. -/
def join (directory name : String) : String :=
  match directory.toList.getLast? with
  | none | some '/' => directory ++ name
  | some _ => directory ++ "/" ++ name

end Files

end TagNesting
