/-!
# Trees of files

Files that lie in directories, as a value. A directory is there if a file lies in it or further
below.

* `FileTree.resolve?` follows a path from directory to directory.
* `FileTree.read?` yields the text of the file at a path.
-/

namespace AgvDispatch

/-- Files by the names on the way to them from the root. -/
structure FileTree where
  /-- The files. -/
  files : List (List String × String)
  deriving Repr

namespace FileTree

/-- The parts of a path, of which an empty one and a single point mean that the path stays where it
is. -/
def parts (path : String) : List String := path.splitOn "/"

/-- Whether a part of a path stays where it is. -/
def stays (part : String) : Bool := part == "" || part == "."

/-- The tree of the files at paths from the root. -/
def ofFiles (files : List (String × String)) : FileTree :=
  ⟨files.map fun (path, text) => ((parts path).filter fun part => !stays part, text)⟩

/-- Whether there is a directory at a place. The root is always there. -/
def hasDirectory (tree : FileTree) (place : List String) : Bool :=
  place.isEmpty || tree.files.any fun (file, _) => place.isPrefixOf file && file != place

/-- The place that the parts of a path lead to from a place. Every place on the way must be a
directory, and the root is in no other one. -/
def resolve? (tree : FileTree) (place : List String) : List String → Option (List String)
  | [] => some place
  | part :: rest =>
    if !tree.hasDirectory place then none
    else if stays part then tree.resolve? place rest
    else if part == ".." then
      if place.isEmpty then none else tree.resolve? place.dropLast rest
    else tree.resolve? (place ++ [part]) rest

/-- The text of the file at a path from the root, if there is one. A path that begins with a slash
leaves the tree. -/
def read? (tree : FileTree) (path : String) : Option String :=
  if path.startsWith "/" then none
  else (tree.resolve? [] (parts path)).bind fun place => tree.files.lookup place

end FileTree

end AgvDispatch
