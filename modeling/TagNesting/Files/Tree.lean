import TagNesting.Files.Basic

/-!
# File trees

Files and directories as a tree, and what a path finds in it.  A path is a list of names with
slashes between them; it starts at the root if it begins with a slash and otherwise at the working
directory.  An empty name and `.` stay in a directory, `..` leads to the directory above, and any
other name to the entry of that name.  All of these need a directory to start from, so a slash
behind the name of a file is an error.
-/

namespace TagNesting.Files

/-- A file with its bytes, or a directory with its entries. -/
inductive Node where
  | file (content : ByteArray)
  | directory (entries : List (String × Node))

namespace Node

/-- A directory without entries. -/
def empty : Node := .directory []

/-- Puts a node at the end of a way of names, making the directories on the way; a directory that is
already there is kept. -/
def insert (n : Node) : List String → Node → Node
  | [], .directory es =>
    match n with
    | .directory [] => .directory es
    | _ => n
  | [], .file _ => n
  | name :: names, node =>
    let es := match node with
      | .directory es => es
      | .file _ => []
    let child := insert n names ((es.lookup name).getD empty)
    .directory (es.filter (fun e => e.1 != name) ++ [(name, child)])

end Node

/-- A node of a tree, and the directories above it, the nearest first. -/
structure Position where
  node : Node
  above : List Node

namespace Position

/-- One step of a path. -/
def step (p : Position) (name : String) : Except ReadFault Position :=
  match p.node with
  | .file _ => .error .notDirectory
  | .directory es =>
    if name = "" ∨ name = "." then .ok p
    else if name = ".." then
      match p.above with
      | [] => .ok p
      | parent :: above => .ok ⟨parent, above⟩
    else if 255 < name.utf8ByteSize then .error .nameTooLong
    else
      match es.lookup name with
      | some child => .ok ⟨child, p.node :: p.above⟩
      | none => .error .notFound

/-- The steps of a path. -/
def walk (p : Position) (names : List String) : Except ReadFault Position := names.foldlM step p

end Position

/-- The names of a path. -/
def namesOf (path : String) : List String := path.splitOn "/"

/-- A tree and the path of the directory that other paths start from. -/
structure Tree where
  root : Node
  workingDirectory : String

namespace Tree

/-- **What a path leads to.** -/
def find (t : Tree) (path : String) : Except ReadFault Node := do
  if path.isEmpty then throw .notFound
  if '\x00' ∈ path.toList then throw .nulInName
  if 4096 ≤ path.utf8ByteSize then throw .nameTooLong
  let top : Position := ⟨t.root, []⟩
  let start ← if isAbsolute path then pure top else top.walk (namesOf t.workingDirectory)
  return (← start.walk (namesOf path)).node

/-- Whether there is a regular file at a path. -/
def isFile (t : Tree) (path : String) : Bool :=
  match t.find path with
  | .ok (.file _) => true
  | _ => false

/-- The text of the file at a path. -/
def read (t : Tree) (path : String) : Except ReadFault String := do
  match ← t.find path with
  | .directory _ => throw .isDirectory
  | .file content =>
    match String.fromUTF8? content with
    | some text => return text
    | none => throw .notText

/-- What can be seen of the tree. -/
def files (t : Tree) : Files := ⟨t.isFile, t.read⟩

end Tree

end TagNesting.Files
