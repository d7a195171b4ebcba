/-
# Folders

A folder of files held in memory, which paths are resolved in as in a working
directory: slashes separate the parts of a path, a dot stands for the folder
itself and two dots for the one above it, of which nothing more is known. What
follows the name of a file is refused, for a file is no directory.

Key definitions: `Folder`, `Folder.read`.
-/
import ReversibleGrammar.LoadError

namespace ReversibleGrammar

/-- The files of a folder, by name. -/
abbrev Folder : Type := List (String × List UInt8)

namespace Folder

/-- Where a path has led to. -/
inductive Place where
  /-- The folder itself. -/
  | inside
  /-- A directory that the folder lies in. -/
  | above
  | file (content : List UInt8)
  | missing
  /-- A file was taken for a directory. -/
  | astray

/-- One part of a path further. -/
def step (folder : Folder) : Place → String → Place
  | .astray, _ => .astray
  | .missing, _ => .missing
  | .file _, _ => .astray
  | .inside, part =>
    if part = "" ∨ part = "." then .inside
    else if part = ".." then .above
    else match folder.lookup part with
      | some content => .file content
      | none => .missing
  | .above, part =>
    if part = "" ∨ part = "." ∨ part = ".." then .above else .missing

/-- The parts of a path, between the slashes. -/
def parts : List Char → List (List Char)
  | [] => [[]]
  | c :: rest =>
    if c = '/' then [] :: parts rest
    else match parts rest with
      | [] => [[c]]
      | part :: others => (c :: part) :: others

/-- Where a path leads to. -/
def resolve (folder : Folder) (path : String) : Place :=
  let start := if path.toList.head? = some '/' then .above else .inside
  ((parts path.toList).map String.ofList).foldl folder.step start

/-- The bytes of the file that a path names. -/
def read (folder : Folder) (path : String) : Except ReadFailure (List UInt8) :=
  if path.isEmpty then .error .notFound
  else match folder.resolve path with
    | .file content => .ok content
    | .inside => .error .isDirectory
    | .above => .error .isDirectory
    | .missing => .error .notFound
    | .astray => .error .notDirectory

end Folder

end ReversibleGrammar
