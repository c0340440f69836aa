import MathBlocks.CommandLine.Path

/-!
# Folders

The files that a command can read and write. The names of a path but for the last lead from one
directory to the next; the last names an entry of the directory that is reached: a file, a directory
or nothing yet.
-/

namespace MathBlocks
namespace CommandLine

/-- Why a file cannot be read or written. -/
inductive FileFault where
  | notFound
  | isDirectory
  | notDirectory
  | nameTooLong
  /-- The bytes of the file are no UTF-8. -/
  | notText
  /-- Another fault, in the words of the system. -/
  | other (description : String)
  deriving DecidableEq, Repr

/-- The description of a fault. -/
def FileFault.message : FileFault → String
  | .notFound => "No such file or directory (os error 2)"
  | .isDirectory => "Is a directory (os error 21)"
  | .notDirectory => "Not a directory (os error 20)"
  | .nameTooLong => "File name too long (os error 36)"
  | .notText => "stream did not contain valid UTF-8"
  | .other description => description

/-- A directory, as it is reached from the folder or from the root. -/
inductive Directory where
  | folder
  | root
  /-- The directory that holds the folder, or that holds such a directory in turn. -/
  | above (directory : Directory)
  | inside (directory : Directory) (name : String)
  deriving DecidableEq, Repr

namespace Directory

/-- The directory that holds a directory; the root holds itself. -/
def up : Directory → Directory
  | folder => above folder
  | root => root
  | above directory => above (above directory)
  | inside directory _ => directory

/-- The path to what a directory holds under a name. -/
def pathTo
    (name : String) :
    Directory → String
  | folder => name
  | root => "/" ++ name
  | above directory => directory.pathTo ("../" ++ name)
  | inside directory inner => directory.pathTo (inner ++ "/" ++ name)

end Directory

/-- What a directory holds under a name. -/
inductive Entry where
  | file (text : Option String)
  | directory
  | vacant
  deriving DecidableEq, Repr

/--
The files of a folder by their paths, with their texts; a file that is no UTF-8 has none. The
directories outside of the folder are taken to be empty.
-/
structure Folder where
  files : List (String × Option String)
  deriving DecidableEq, Repr

namespace Folder

/-- The longest path that can be followed, in bytes. -/
def pathLimit : Nat := 4095

/-- The longest name that a directory can hold, in bytes. -/
def nameLimit : Nat := 255

/-- Whether some file lies below a directory. -/
def hasDirectory
    (folder : Folder)
    (path : String) : Bool :=
  folder.files.any fun file => (path ++ "/").toList.isPrefixOf file.1.toList

/-- What a directory holds under a name. -/
def entry
    (folder : Folder)
    (here : Directory)
    (name : String) : Except FileFault Entry :=
  if name = "." || name = ".." then
    .ok .directory
  else if nameLimit < name.utf8ByteSize then
    .error .nameTooLong
  else
    match folder.files.lookup (here.pathTo name) with
    | some text => .ok (.file text)
    | none =>
        if folder.hasDirectory (here.pathTo name) then .ok .directory
        else .ok .vacant

/-- The directory that a name leads to. -/
def enter
    (folder : Folder)
    (here : Directory)
    (name : String) : Except FileFault Directory :=
  match folder.entry here name with
  | .ok .directory =>
      if name = "." then .ok here
      else if name = ".." then .ok here.up
      else .ok (.inside here name)
  | .ok (.file _) => .error .notDirectory
  | .ok .vacant => .error .notFound
  | .error fault => .error fault

/-- The path that a text is, and the directory that its names before the last lead to. -/
def locate
    (folder : Folder)
    (text : String) : Except FileFault (Path × Directory) :=
  if text = "" then
    .error .notFound
  else if pathLimit < text.utf8ByteSize then
    .error .nameTooLong
  else
    let path := Path.ofText text
    let start : Directory := if path.fromRoot then .root else .folder
    match path.directories.foldlM folder.enter start with
    | .ok here => .ok (path, here)
    | .error fault => .error fault

/-- The text of the file at a path. A slash after the name of a file asks for too much. -/
def read
    (folder : Folder)
    (path : String) : Except FileFault String := do
  let (path, here) ← folder.locate path
  match ← folder.entry here path.name, path.endsWithSlash with
  | .file (some text), false => .ok text
  | .file none, false => .error .notText
  | .file _, true => .error .notDirectory
  | .directory, _ => .error .isDirectory
  | .vacant, _ => .error .notFound

/-- The folder with a text at a path, in place of a file that is there already. -/
def put
    (folder : Folder)
    (path text : String) : Folder :=
  ⟨(path, some text) :: folder.files.filter fun file => file.1 ≠ path⟩

/--
Writes a text to the file at a path. A path that ends with a slash names a directory, whatever is
there.
-/
def write
    (folder : Folder)
    (path text : String) : Except FileFault Folder := do
  let (path, here) ← folder.locate path
  if path.endsWithSlash then
    .error .isDirectory
  else
    match ← folder.entry here path.name with
    | .directory => .error .isDirectory
    | .file _ | .vacant => .ok (folder.put (here.pathTo path.name) text)

end Folder
end CommandLine
end MathBlocks
