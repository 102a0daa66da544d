import Testbed.Path
import Testbed.Fault
import Testbed.Config.Load
import Testbed.Disk

/-!
# A file table

A file table keeps files and directories by the exact path they were added under, without
cleaning it. Adding a file also adds its parent directories, up to but not including `.` and
`/`. Reading and describing a path can be made to fail with a planned fault; reading a path
that is not a file fails with `file does not exist`.
-/

namespace Testbed

/-- What describing a path tells. -/
structure FileInfo where
  name : String
  size : Nat
  isDir : Bool
  mode : String
  deriving DecidableEq, Repr, Inhabited

/-- Files and directories by path, and the planned failures of reading and describing. -/
structure FileTable where
  files : List (String × String) := []
  dirs : List String := []
  readFailure : Option Fault := none
  statFailure : Option Fault := none
  deriving Inhabited

namespace FileTable

def parents (path : String) : (fuel : Nat) → List String
  | 0 => []
  | fuel + 1 =>
    let dir := Path.dir path
    if dir == "." || dir == "/" then [] else dir :: parents dir fuel

def addDir (table : FileTable) (path : String) : FileTable :=
  if table.dirs.contains path then table else { table with dirs := table.dirs ++ [path] }

def addFile (table : FileTable) (path content : String) : FileTable :=
  let files := (table.files.filter (·.1 != path)) ++ [(path, content)]
  (parents path (path.length + 1)).foldl addDir { table with files }

def notExist : Fault := .note "file does not exist"

def read (table : FileTable) (path : String) : Except Fault String :=
  match table.readFailure with
  | some fault => .error fault
  | none =>
    match table.files.lookup path with
    | some content => .ok content
    | none => .error notExist

def stat (table : FileTable) (path : String) : Except Fault FileInfo :=
  match table.statFailure with
  | some fault => .error fault
  | none =>
    match table.files.lookup path with
    | some content => .ok ⟨Path.base path, content.utf8ByteSize, false, "-rw-r--r--"⟩
    | none =>
      if table.dirs.contains path then .ok ⟨Path.base path, 0, true, "drwxr-xr-x"⟩
      else .error notExist

def present (table : FileTable) (path : String) : Bool :=
  (table.files.lookup path).isSome || table.dirs.contains path

def isDir (table : FileTable) (path : String) : Bool := table.dirs.contains path

def source (table : FileTable) : FileSource := ⟨table.present, table.read⟩

end FileTable

/-- The disk as a source of settings files: a missing file cannot be opened. -/
def Disk.source (disk : Disk) : FileSource where
  present := disk.exists?
  read path :=
    match disk.read path with
    | .content text => .ok text
    | .missing => .error (Errno.noEntry.fault "open" path)
    | .failed fault => .error fault

end Testbed
