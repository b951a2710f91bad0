/-!
# Files to be checked

A directory or file is known by its way: the names that lead to it from the root.

* `ReadFault`, `ReadFault.message` - why a file cannot be read;
* `decodeText` - the text of a file, if its bytes are one;
* `pathNames`, `FileName.byteSize` - the names of a path, and their size;
* `FileTree`, `FileTree.node?` - a tree, and what stands at the end of a way;
* `FileTree.write`, `FileTree.ofPaths` - files put into a tree, with the directories on their paths;
* `FileTree.walk`, `FileTree.read` - where a path leads to, and the text there.

A path is followed name by name, and each name is looked up in a directory: what stands before a slash
has to be a directory even where the name behind it is empty, `.` or `..`.
-/

namespace SyntaxCheck

/-- Why a file cannot be read. -/
inductive ReadFault
  | notFound
  /-- Something on the way is a file. -/
  | notDirectory
  | isDirectory
  /-- A name, or the path as a whole, is longer than the system takes. -/
  | nameTooLong
  /-- The bytes are not a text in UTF-8. -/
  | notText
  | other (message : String)
  deriving DecidableEq

/-- The reason in words. -/
def ReadFault.message : ReadFault → String
  | .notFound => "No such file or directory (os error 2)"
  | .notDirectory => "Not a directory (os error 20)"
  | .isDirectory => "Is a directory (os error 21)"
  | .nameTooLong => "File name too long (os error 36)"
  | .notText => "stream did not contain valid UTF-8"
  | .other message => message

/-- The text of a file, if its bytes are one. -/
def decodeText (bytes : ByteArray) : Except ReadFault String :=
  match String.fromUTF8? bytes with
  | some text => .ok text
  | none => .error .notText

/-! ### Names and paths -/

/-- The name of a file or directory within its directory. -/
abbrev FileName := List Char

/-- The bytes that a name takes up. -/
def FileName.byteSize (name : FileName) : Nat := (String.ofList name).utf8ByteSize

/-- The bytes that a name may take up. -/
def maxNameSize : Nat := 255

/-- The bytes that a path may take up. -/
def maxPathSize : Nat := 4095

/-- The names of a path: the runs between its slashes. -/
def pathNames : List Char → List FileName
  | [] => [[]]
  | c :: path =>
    if c = '/' then [] :: pathNames path
    else
      match pathNames path with
      | [] => [[c]]
      | name :: names => (c :: name) :: names

/-- The names that lead from the root to a directory or file. -/
abbrev Way := List FileName

/-- The way after one more name: an empty name and `.` stay, `..` goes back, and at the root stays. -/
def Way.next (way : Way) (name : FileName) : Way :=
  if name = [] ∨ name = ['.'] then way
  else if name = ['.', '.'] then way.dropLast
  else way ++ [name]

/-! ### Trees -/

/-- What may stand at the end of a way. -/
inductive FileNode
  | directory
  | file (bytes : ByteArray)

/-- What was made so far, the latest first, and the way to the working directory. -/
structure FileTree where
  nodes : List (Way × FileNode)
  working : Way

namespace FileTree

/-- What stands at the end of a way. -/
def node? (tree : FileTree) (way : Way) : Option FileNode := tree.nodes.lookup way

/-- A directory at the end of a way, unless something is there already. -/
def makeDirectory (tree : FileTree) (way : Way) : FileTree :=
  if (tree.node? way).isSome then tree
  else { tree with nodes := (way, .directory) :: tree.nodes }

/-- The names of the directories that a system has at its root. -/
def rootNames : List String :=
  ["bin", "boot", "dev", "etc", "home", "lib", "media", "mnt", "opt", "proc", "run", "sbin", "srv",
    "sys", "tmp", "usr", "var"]

/-- A system in which the working directory is empty. It stands among the temporary ones, under a name
that no path spells. -/
def fresh : FileTree where
  nodes :=
    (["tmp".toList, []], .directory) :: (["dev".toList, "null".toList], .file .empty) ::
      ([], .directory) :: rootNames.map fun name => ([name.toList], .directory)
  working := ["tmp".toList, []]

/-- Where a path starts. -/
def origin (tree : FileTree) (path : String) : Way :=
  if path.toList.head? = some '/' then [] else tree.working

/-- Make the directories that some names lead through. -/
def makeWay (tree : FileTree) (way : Way) : List FileName → FileTree × Way
  | [] => (tree, way)
  | name :: names => makeWay (tree.makeDirectory (way.next name)) (way.next name) names

/-- Write a file, with the directories on its path. -/
def write (tree : FileTree) (path : String) (bytes : ByteArray) : FileTree :=
  let names := pathNames path.toList
  let (tree, way) := tree.makeWay (tree.origin path) names.dropLast
  { tree with nodes := (way ++ names.getLast?.toList, .file bytes) :: tree.nodes }

/-- The tree of some files by their paths. Of several files with one path the last stays. -/
def ofPaths (files : List (String × ByteArray)) : FileTree :=
  files.foldl (fun tree file => tree.write file.1 file.2) fresh

/-! ### Reading -/

/-- One name further. -/
def step (tree : FileTree) (way : Way) (name : FileName) : Except ReadFault Way :=
  match tree.node? way with
  | some .directory =>
    if maxNameSize < name.byteSize then .error .nameTooLong
    else if (tree.node? (way.next name)).isSome then .ok (way.next name)
    else .error .notFound
  | some (.file _) => .error .notDirectory
  | none => .error .notFound

/-- The way at the end of some names. -/
def walk (tree : FileTree) (way : Way) : List FileName → Except ReadFault Way
  | [] => .ok way
  | name :: names =>
    match tree.step way name with
    | .ok way => walk tree way names
    | .error fault => .error fault

/-- The bytes of the file at the end of a way. -/
def bytes (tree : FileTree) (way : Way) : Except ReadFault ByteArray :=
  match tree.node? way with
  | some (.file bytes) => .ok bytes
  | some .directory => .error .isDirectory
  | none => .error .notFound

/-- The text that a path leads to. An empty path leads nowhere. -/
def read (tree : FileTree) (path : String) : Except ReadFault String :=
  if path.isEmpty then .error .notFound
  else if maxPathSize < path.utf8ByteSize then .error .nameTooLong
  else do decodeText (← tree.bytes (← tree.walk (tree.origin path) (pathNames path.toList)))

end FileTree

end SyntaxCheck
