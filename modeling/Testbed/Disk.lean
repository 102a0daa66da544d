import Testbed.Path
import Testbed.Fault

/-!
# A file system held in memory

The disk maps cleaned paths to files and directories. The working directory `.` and the root
`/` always exist. Every path of the disk has all its parents present as directories, which the
operations keep: files and directories are only added under an existing directory, and a
directory is only removed when it is empty.

Each operation fails the way a POSIX system does, and its fault names the operation and the
path as the caller wrote it: `open st/runs/t.events.jsonl: not a directory`. Looking up a path
walks its parts from the top: a missing part means the path does not exist, and a file in the
middle means a part is not a directory.
-/

namespace Testbed

/-- Why a file system call failed. -/
inductive Errno where
  | noEntry
  | notDir
  | isDir
  | exists
  | notEmpty
  deriving DecidableEq, Repr, Inhabited

/-- The system's text of a failure. -/
def Errno.text : Errno → String
  | .noEntry => "no such file or directory"
  | .notDir => "not a directory"
  | .isDir => "is a directory"
  | .exists => "file exists"
  | .notEmpty => "directory not empty"

def Errno.fault (errno : Errno) (op path : String) : Fault :=
  .note (op ++ " " ++ path ++ ": " ++ errno.text)

/-- An entry of the disk. -/
inductive Node where
  | file (content : String)
  | dir
  deriving DecidableEq, Repr, Inhabited

/-- Files and directories by cleaned path. -/
structure Disk where
  entries : List (String × Node) := []
  deriving Repr, Inhabited

namespace Disk

/-- The parts of a cleaned path, each with the path up to it. -/
def prefixes (path : String) : List String :=
  let clean := Path.clean path
  if clean == "." || clean == "/" then []
  else
    let rooted := clean.startsWith "/"
    let parts := (Path.parts clean).filter (· ≠ "")
    (List.range parts.length).map fun n =>
      (if rooted then "/" else "") ++ "/".intercalate (parts.take (n + 1))

def node? (disk : Disk) (clean : String) : Option Node :=
  if clean == "." || clean == "/" then some .dir else disk.entries.lookup clean

/-- Looks a path up part by part. -/
def lookup (disk : Disk) (path : String) : Except Errno Node :=
  let rec walk : List String → Except Errno Node
    | [] => .ok .dir
    | [last] =>
      match disk.node? last with
      | some node => .ok node
      | none => .error .noEntry
    | part :: rest =>
      match disk.node? part with
      | some .dir => walk rest
      | some (.file _) => .error .notDir
      | none => .error .noEntry
  walk (prefixes path)

/-- Whether a path names an existing entry; the empty path names nothing. -/
def exists? (disk : Disk) (path : String) : Bool :=
  !path.isEmpty && (disk.lookup path).toOption.isSome

/-- Whether a path names an existing directory; the empty path names nothing. -/
def isDir (disk : Disk) (path : String) : Bool :=
  !path.isEmpty && (disk.lookup path).toOption == some .dir

def put (disk : Disk) (path : String) (node : Node) : Disk :=
  let clean := Path.clean path
  { entries := (disk.entries.filter (·.1 != clean)) ++ [(clean, node)] }

/-- Makes one directory under an existing directory. -/
def mkdir (disk : Disk) (path : String) : Except Fault Disk :=
  match disk.lookup path with
  | .ok _ => .error (Errno.exists.fault "mkdir" path)
  | .error .notDir => .error (Errno.notDir.fault "mkdir" path)
  | .error _ =>
    match disk.lookup (Path.dir path) with
    | .ok .dir => .ok (disk.put path .dir)
    | .ok (.file _) => .error (Errno.notDir.fault "mkdir" path)
    | .error errno => .error (errno.fault "mkdir" path)

/-- The path without its last part, as written: everything before the last slash that is not
trailing. -/
def parentText (path : String) : String :=
  let reversed := path.toList.reverse.dropWhile (· == '/')
  String.ofList ((reversed.dropWhile (· != '/')).drop 1).reverse

/-- Makes a directory and every missing parent. An existing directory is left alone; a file
in the way is an error. Each level is created by its own call, so a failure names the level
that failed. -/
def mkdirAll (disk : Disk) (path : String) : (fuel : Nat) → Except Fault Disk
  | 0 => .error (Errno.noEntry.fault "mkdir" path)
  | fuel + 1 =>
    match disk.lookup path with
    | .ok .dir => .ok disk
    | .ok (.file _) => .error (Errno.notDir.fault "mkdir" path)
    | .error _ => do
      let parent := parentText path
      let disk ← if parent.isEmpty then pure disk else disk.mkdirAll parent fuel
      match disk.mkdir path with
      | .ok made => .ok made
      | .error fault =>
        match disk.lookup path with
        | .ok .dir => .ok disk
        | _ => .error fault

def makeDirs (disk : Disk) (path : String) : Except Fault Disk :=
  disk.mkdirAll path (path.length + 1)

/-- Appends to a file, creating it in an existing directory when it is missing. -/
def append (disk : Disk) (path : String) (data : String) : Except Fault Disk :=
  match disk.lookup path with
  | .ok (.file content) => .ok (disk.put path (.file (content ++ data)))
  | .ok .dir => .error (Errno.isDir.fault "open" path)
  | .error .notDir => .error (Errno.notDir.fault "open" path)
  | .error _ =>
    match disk.lookup (Path.dir path) with
    | .ok .dir => .ok (disk.put path (.file data))
    | .ok (.file _) => .error (Errno.notDir.fault "open" path)
    | .error errno => .error (errno.fault "open" path)

def write (disk : Disk) (path : String) (data : String) : Except Fault Disk :=
  match disk.lookup path with
  | .ok (.file _) => .ok (disk.put path (.file data))
  | _ => disk.append path data

/-- What reading a file gives: its content, or that it does not exist, or a fault. -/
inductive Reading where
  | content (text : String)
  | missing
  | failed (fault : Fault)

/-- Opens and reads a file. A directory opens but cannot be read; the empty path names
nothing. -/
def read (disk : Disk) (path : String) : Reading :=
  if path.isEmpty then .failed (Errno.noEntry.fault "open" path) else
  match disk.lookup path with
  | .ok (.file content) => .content content
  | .ok .dir => .failed (Errno.isDir.fault "read" path)
  | .error .noEntry => .missing
  | .error errno => .failed (errno.fault "open" path)

def hasChildren (disk : Disk) (path : String) : Bool :=
  let clean := Path.clean path
  disk.entries.any fun (p, _) => Path.dir p == clean && p != clean

/-- Removes a file or an empty directory; `none` when it did not exist. -/
def remove (disk : Disk) (path : String) : Except Fault (Option Disk) :=
  match disk.lookup path with
  | .ok (.file _) => .ok (some { entries := disk.entries.filter (·.1 != Path.clean path) })
  | .ok .dir =>
    if disk.hasChildren path then .error (Errno.notEmpty.fault "remove" path)
    else .ok (some { entries := disk.entries.filter (·.1 != Path.clean path) })
  | .error .noEntry => .ok none
  | .error errno => .error (errno.fault "remove" path)

def files (disk : Disk) : List (String × String) :=
  disk.entries.filterMap fun
    | (p, .file content) =>
      if p.startsWith "/" || p.startsWith "../" || p == ".." then none else some (p, content)
    | _ => none

/-- Every file under a directory, by its path relative to the directory, with its content. -/
def filesUnder (disk : Disk) (root : String) : List (String × String) :=
  let lead := Path.clean root ++ "/"
  disk.entries.filterMap fun
    | (p, .file content) =>
      if p.startsWith lead then some ((p.drop lead.length).toString, content) else none
    | _ => none

/-- What describing a path tells: its last part, its size in bytes (zero for a directory),
and whether it is a directory. -/
def stat (disk : Disk) (path : String) : Except Fault (String × Nat × Bool) :=
  if path.isEmpty then .error (Errno.noEntry.fault "stat" path)
  else
    match disk.lookup path with
    | .ok (.file content) => .ok (Path.base path, content.utf8ByteSize, false)
    | .ok .dir => .ok (Path.base path, 0, true)
    | .error errno => .error (errno.fault "stat" path)

end Disk

end Testbed
