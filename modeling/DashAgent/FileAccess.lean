import DashAgent.Table

/-!
# Access to files

What a command needs of a file system: to read a text and to write one. A `FileTree` is a file
system held in memory. A file can be written where its directory exists and no directory has its
path; a device can always be written.
-/
namespace DashAgent

/-- Access to files: a text, unless it cannot be read, and whether a text could be written. -/
structure FileAccess (m : Type → Type) where
  read : String → m (Option String)
  write : String → String → m Bool

/-- The directory of a path: what stands before its last slash, or the working directory. -/
def directoryOf (path : String) : String :=
  match path.toList.reverse.dropWhile (· ≠ '/') with
  | [] => "."
  | ['/'] => "/"
  | _ :: back => String.ofList back.reverse

/-- The name of a path in its directory: what stands behind its last slash. -/
def nameOf (path : String) : String :=
  String.ofList (path.toList.reverse.takeWhile (· ≠ '/')).reverse

structure FileTree where
  /-- The directories in which files can be made. -/
  directories : List String
  /-- The devices that take any text and hold none. -/
  sinks : List String
  files : Table String String
  /-- What was written to the device of the standard output. -/
  console : String
  deriving DecidableEq, Repr

namespace FileTree

def consolePath : String := "/dev/stdout"

/-- A working directory, a directory for temporary files, and the usual devices. -/
def usual : FileTree where
  directories := [".", "/tmp"]
  sinks := ["/dev/null", "/dev/stderr"]
  files := .empty
  console := ""

/-- The text at a path, if there is a file or a device to read. -/
def text? (t : FileTree) (path : String) : Option String :=
  if path ∈ t.sinks then some "" else t.files.get? path

def put (t : FileTree) (path text : String) : FileTree :=
  { t with files := t.files.insert path text }

def takesFile (t : FileTree) (path : String) : Bool :=
  nameOf path ∉ ["", ".", ".."] && path ∉ t.directories && directoryOf path ∈ t.directories

/-- Writes a text, and tells whether that could be done. -/
def write (t : FileTree) (path text : String) : Bool × FileTree :=
  if path = consolePath then (true, { t with console := t.console ++ text })
  else if path ∈ t.sinks then (true, t)
  else if t.takesFile path then (true, t.put path text)
  else (false, t)

end FileTree

def FileAccess.inMemory : FileAccess (StateM FileTree) where
  read path := return (← get).text? path
  write path text := modifyGet (FileTree.write · path text)

end DashAgent
