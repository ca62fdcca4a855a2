import Gemtext.Text.Basic

/-!
# Names of files

Paths are texts cut at slashes; empty components and single dots name nothing.  `gemtextName` is
the name under which a converted file is written.
-/

namespace Gemtext

namespace Path

/-- The last component of the path, unless that is the root, a dot or the parent. -/
def fileName? (path : Text) : Option Text :=
  let names := (Text.splitOn '/' path).filter fun name => !name.isEmpty && name != ['.']
  match names.getLast? with
  | none => none
  | some name => if name = ['.', '.'] then none else some name

/-- The path without the components that name nothing. -/
def normalized (path : Text) : Text :=
  let names := (Text.splitOn '/' path).filter fun name => !name.isEmpty && name != ['.']
  let root : Text := if path.head? = some '/' then ['/'] else []
  root ++ Text.joinWith ['/'] names

/-- The path of what is called `name` in a directory. -/
def join (directory name : Text) : Text :=
  if name.head? = some '/' then name
  else if directory.isEmpty || directory.getLast? = some '/' then directory ++ name
  else directory ++ '/' :: name

/-- A file name without its last dot and what follows it.  A name without a dot, or with only one
at its start, is kept. -/
def stem (name : Text) : Text :=
  match (name.reverse.dropWhile (· != '.')).reverse.dropLast with
  | [] => name
  | before => before

/-- The stem of the file that the path names, or else the path itself. -/
def fileStem (path : Text) : Text :=
  ((fileName? path).map stem).getD path

/-- Replace the extension of the file that the path names; a path that names no file is kept. -/
def withExtension (path extension : Text) : Text :=
  match fileName? path with
  | none => path
  | some name => stem name ++ '.' :: extension

end Path

/-- The name of the gemtext file for a Markdown file. -/
def gemtextName (path : Text) : Text :=
  Path.withExtension (Path.fileStem path) "gmi".toList

end Gemtext
