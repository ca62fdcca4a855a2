import Gemtext.Path
import Gemtext.Text.Utf8

/-!
# Where the command runs

A `Host` gives the command access to its input and to files.  `Workspace` is a host that holds its
files in memory: a directory with files and further directories, in which paths are followed name
by name.
-/

namespace Gemtext

namespace Command

/-- What the command needs from where it runs.  A failure to read or write comes with its reason. -/
structure Host (m : Type → Type) where
  readInput : m (List UInt8)
  isFile : Text → m Bool
  isDirectory : Text → m Bool
  readFile : Text → m (Except Text (List UInt8))
  writeFile : Text → List UInt8 → m (Except Text Unit)

/-- A directory in memory. -/
structure Workspace where
  input : List UInt8
  /-- The files, each with the names on the way to it. -/
  files : List (List Text × List UInt8)
  /-- The directories that hold no files. -/
  directories : List (List Text)
  deriving DecidableEq, Repr

namespace Workspace

/-- Whether the names lead to a directory.  A directory is there if something in it is. -/
def hasDirectory (w : Workspace) (names : List Text) : Bool :=
  names.isEmpty || w.directories.any names.isPrefixOf ||
    w.files.any fun (file, _) => names.isPrefixOf file && names != file

/-- The content of the file that the names lead to. -/
def content? (w : Workspace) (names : List Text) : Option (List UInt8) :=
  w.files.lookup names

/-- Follow names from the directory `current`.  Two dots lead to the directory around it, but not
out of the workspace. -/
def follow? (w : Workspace) (current : List Text) : List Text → Option (List Text)
  | [] => some current
  | name :: names =>
    if !w.hasDirectory current then none
    else if name.isEmpty || name = ['.'] then follow? w current names
    else if name = ['.', '.'] then
      if current.isEmpty then none else follow? w current.dropLast names
    else follow? w (current ++ [name]) names

/-- The names that a path leads along. -/
def resolve? (w : Workspace) (path : Text) : Option (List Text) :=
  if path.isEmpty || path.head? = some '/' then none else w.follow? [] (Text.splitOn '/' path)

/-- The files with the content of one replaced, or with a new one. -/
def replace (names : List Text) (content : List UInt8) :
    List (List Text × List UInt8) → List (List Text × List UInt8)
  | [] => [(names, content)]
  | (n, c) :: rest =>
    if n = names then (n, content) :: rest else (n, c) :: replace names content rest

/-- Write a file, unless the path is that of a directory or leads nowhere. -/
def write (w : Workspace) (path : Text) (content : List UInt8) : Except Text Workspace :=
  match w.resolve? path with
  | some names =>
    if w.hasDirectory names then .error "Is a directory (os error 21)".toList
    else .ok { w with files := replace names content w.files }
  | none => .error "No such file or directory (os error 2)".toList

/-- The workspace as a host. -/
def host : Host (StateM Workspace) where
  readInput := fun w => (w.input, w)
  isFile path := fun w => (((w.resolve? path).bind w.content?).isSome, w)
  isDirectory path := fun w => ((w.resolve? path).any w.hasDirectory, w)
  readFile path := fun w =>
    match (w.resolve? path).bind w.content? with
    | some content => (.ok content, w)
    | none => (.error "No such file or directory (os error 2)".toList, w)
  writeFile path content := fun w =>
    match w.write path content with
    | .ok changed => (.ok (), changed)
    | .error reason => (.error reason, w)

end Workspace

end Command

end Gemtext
