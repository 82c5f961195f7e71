/-!
# Reading files

A file is read as a whole and has to be UTF-8. A `FileTree` is a set of files in memory, so that the
tool can be run without a disk: its directories are those that are listed and those that its files
lie in. A path is followed name by name from the root of the tree, which is the working directory.
Every name but the last has to lead to a directory, also when two dots lead back out of it. Around
the tree there are directories of which nothing else is known.
-/

namespace TemplateLexer.Command

/-- Why a file cannot be read. -/
inductive ReadError where
  /-- There is nothing of that name. -/
  | notFound
  | isDirectory
  /-- A part of the path is a file. -/
  | notDirectory
  /-- A name on the path, or the path, is longer than the system allows. -/
  | nameTooLong
  /-- The path holds the character that ends a path for the system. -/
  | zeroInPath
  /-- It is not UTF-8. -/
  | notUtf8
  | other (sentence : String)
deriving DecidableEq, Repr

/-- The sentence for a file that cannot be read. -/
def ReadError.message : ReadError → String
  | notFound => "No such file or directory (os error 2)"
  | isDirectory => "Is a directory (os error 21)"
  | notDirectory => "Not a directory (os error 20)"
  | nameTooLong => "File name too long (os error 36)"
  | zeroInPath => "file name contained an unexpected NUL byte"
  | notUtf8 => "stream did not contain valid UTF-8"
  | other sentence => sentence

/-- The text that bytes encode. -/
def decodeText (bytes : ByteArray) : Except ReadError (List Char) :=
  match String.fromUTF8? bytes with
  | some text => .ok text.toList
  | none => .error .notUtf8

/-- The bytes that a name may have. -/
def maxNameBytes : Nat := 255

/-- The bytes that a path may have. -/
def maxPathBytes : Nat := 4095

/-- Where a path has led so far. -/
inductive Place where
  /-- To the end of these names, from the root of the tree. -/
  | inside (names : List String)
  /-- To a directory around the tree. -/
  | outside
deriving DecidableEq, Repr

namespace Place

/-- The directory that a place lies in. -/
def parent : Place → Place
  | inside [] => outside
  | inside names => inside names.dropLast
  | outside => outside

end Place

/-- Files in memory. -/
structure FileTree where
  /-- The files, by their paths. -/
  files : List (String × ByteArray)
  directories : List String

namespace FileTree

/-- The names on the path of a file or directory of the tree; empty ones and dots mean nothing. -/
def names (path : String) : List String :=
  (path.splitOn "/").filter fun name => name ≠ "" ∧ name ≠ "."

/-- The file at a place. -/
def file? (t : FileTree) : Place → Option ByteArray
  | .inside path => (t.files.find? (names ·.1 == path)).map (·.2)
  | .outside => none

/-- Whether there is a directory at a place. -/
def hasDirectory (t : FileTree) : Place → Bool
  | .inside path =>
    path.isEmpty || (t.directories.map names).any (path.isPrefixOf ·) ||
      (t.files.map (names ·.1)).any fun file => path.isPrefixOf file && path.length < file.length
  | .outside => true

/-- What a name means in the directory at a place. -/
def child (t : FileTree) (place : Place) (name : String) : Except ReadError Place :=
  match place with
  | .inside path =>
    let next : Place := .inside (path ++ [name])
    if (t.file? next).isSome || t.hasDirectory next then .ok next else .error .notFound
  | .outside => .error .notFound

/-- Goes on from a place by one name of a path. -/
def enter (t : FileTree) (place : Place) (name : String) : Except ReadError Place :=
  if (t.file? place).isSome then .error .notDirectory
  else if name = "" ∨ name = "." then .ok place
  else if name = ".." then .ok place.parent
  else if maxNameBytes < name.utf8ByteSize then .error .nameTooLong
  else t.child place name

/-- The place that a path leads to. -/
def resolve (t : FileTree) (path : String) : Except ReadError Place :=
  (path.splitOn "/").foldlM t.enter (if path.startsWith "/" then .outside else .inside [])

/-- The text of a file. -/
def read (t : FileTree) (path : String) : Except ReadError (List Char) :=
  if path.contains '\x00' then .error .zeroInPath
  else if maxPathBytes < path.utf8ByteSize then .error .nameTooLong
  else do
    match t.file? (← t.resolve path) with
    | some bytes => decodeText bytes
    | none => .error .isDirectory

end FileTree

end TemplateLexer.Command
