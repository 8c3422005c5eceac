/-!
# A folder of scripts

The batch runner reads scripts by path from its working folder. A *folder* here is a list of
named texts; a path is read the way an operating system reads it, one component after another,
separated by `/`:

* `.` stays where it is and `..` goes up to the folder around, whose contents are unknown;
* a name in the working folder is one of its files; any other name is missing;
* a path that ends in a folder, or in `/`, cannot be read as a file;
* a component after a file, or a `/` after a file, is an error of its own.

An absolute path starts at the root of the file system, whose contents are unknown too; the
empty path names nothing.

* `Folder.read`: the text at a path, or why it cannot be read.
-/

namespace Concat

/-- Why a path could not be read. -/
inductive ReadFailure where
  /-- Nothing is at the path. -/
  | notFound
  /-- The path names a folder. -/
  | isFolder
  /-- The path goes on after a file. -/
  | notFolder
  /-- The bytes are not UTF-8. -/
  | notText
  deriving DecidableEq, Repr, Inhabited

/-- The message the operating system gives for a failure. -/
def ReadFailure.message : ReadFailure → String
  | .notFound => "No such file or directory (os error 2)"
  | .isFolder => "Is a directory (os error 21)"
  | .notFolder => "Not a directory (os error 20)"
  | .notText => "stream did not contain valid UTF-8"

/-- A working folder: its files, by name. -/
structure Folder where
  /-- The files, each a name and a text. -/
  files : List (String × String)
  deriving Repr, Inhabited

namespace Folder

/-- Where a path has led so far. -/
inductive Place where
  /-- The working folder. -/
  | here
  /-- A folder whose contents are unknown. -/
  | elsewhere
  /-- A file of the working folder, with its text. -/
  | file (text : String)

/-- Follows the components of a path from the place `p`. -/
def follow (f : Folder) : Place → List String → Except ReadFailure Place
  | p, [] => .ok p
  | .file _, _ :: _ => .error .notFolder
  | p, "" :: rest => follow f p rest
  | p, "." :: rest => follow f p rest
  | _, ".." :: rest => follow f .elsewhere rest
  | .here, name :: rest =>
    match f.files.lookup name with
    | some text => follow f (.file text) rest
    | none => .error .notFound
  | .elsewhere, _ :: _ => .error .notFound

/-- The text at a path, or why it cannot be read. -/
def read (f : Folder) (path : String) : Except ReadFailure String :=
  if path.isEmpty then .error .notFound
  else
    let parts := path.splitOn "/"
    let start := if path.startsWith "/" then Place.elsewhere else Place.here
    match follow f start parts with
    | .error e => .error e
    | .ok (.file text) => if path.endsWith "/" then .error .notFolder else .ok text
    | .ok _ => .error .isFolder

end Folder

end Concat
