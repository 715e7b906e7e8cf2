/-!
# Files

Access to files by their paths, and a disk in memory that gives it. A path is a text whose parts are
separated by slashes.
-/

namespace UsbHost

/-- Access to files. -/
class Files (m : Type → Type) where
  /-- Whether a path leads to a file or a directory. -/
  isPresent (path : String) : m Bool
  /-- The bytes of a file, if it can be read. -/
  read (path : String) : m (Option ByteArray)
  /-- Makes a directory and those above it where they are missing; says whether it is there. -/
  makeDirectory (path : String) : m Bool
  /-- Writes a file, and says whether that could be done. -/
  write (path : String) (text : String) : m Bool

namespace Path

/-- A path with one more part. -/
def join (path part : String) : String :=
  if path.isEmpty || path.endsWith "/" then path ++ part else path ++ "/" ++ part

/-- Whether a path begins at the root. -/
def isAbsolute (path : String) : Bool := path.startsWith "/"

/-- The characters before the last part. -/
def parentChars (path : List Char) : List Char :=
  let back := path.reverse.dropWhile (· = '/')
  (back.dropWhile (· ≠ '/')).dropWhile (· = '/') |>.reverse

/-- The path without its last part; the root has none above it. -/
def parent? (path : String) : Option String :=
  if path.toList.all (· = '/') then none
  else
    let parent := String.ofList (parentChars path.toList)
    if parent.isEmpty && isAbsolute path then some "/" else some parent

/-- The home directory in place of a tilde at the start of a path. -/
def expandHome (home path : String) : String :=
  match path.toList with
  | ['~'] => home
  | '~' :: '/' :: rest => home ++ "/" ++ String.ofList rest
  | _ => path

/-- Whether one path is above another. -/
def isAbove (above path : String) : Bool := (Path.join above "").toList.isPrefixOf path.toList

end Path

/-! ## A disk in memory -/

/-- The files and directories of a disk. -/
structure Disk where
  /-- The files and what they hold; a path may have been written before. -/
  files : List (String × ByteArray) := []
  directories : List String := []

namespace Disk

/-- What a file holds, as it was last written. -/
def file? (d : Disk) (path : String) : Option ByteArray := d.files.lookup path

/-- Whether there is a directory, or something below it. -/
def isDirectory (d : Disk) (path : String) : Bool :=
  path = "/" || path = "" || d.directories.any (fun p => p = path || Path.isAbove path p)
    || d.files.any fun f => Path.isAbove path f.1

/-- Whether a file is at a path or above it. -/
def isBlocked (d : Disk) (path : String) : Bool :=
  d.files.any fun f => f.1 = path || Path.isAbove f.1 path

instance : Files (StateM Disk) where
  isPresent path := return ((← get).file? path).isSome || (← get).isDirectory path
  read path := return (← get).file? path
  makeDirectory path := do
    if (← get).isBlocked path then return false
    modify fun d => { d with directories := path :: d.directories }
    return true
  write path text := do
    let d ← get
    let parent := (Path.parent? path).getD "/"
    if d.isDirectory path || !d.isDirectory parent then return false
    set { d with files := (path, text.toUTF8) :: d.files }
    return true

end Disk

end UsbHost
