import Testbed.Shell.Run
import Testbed.Text.Quoted

/-!
# A host that runs programs

The host is a machine whose programs are shell scripts. It knows the executables installed at
absolute paths, the directories of its search path, and the environment its programs start
with. Two kinds of executable exist: the shell itself, and logged scripts, which first add a
line naming their call to the host's call log, `name [arg1] [arg2]`, and then run their body.

Starting a program follows the rules of process creation: an empty name is no command; a name
without a slash is looked up in the directories of the search path; a name with a slash is
used as it is, and fails when nothing executable is there. Looking a name up reports why it
failed: not found on the search path, or the error of describing the path it names.
-/

namespace Testbed

/-- A program the host can run. -/
inductive Executable where
  | shell
  | logged (name body : String)
  deriving DecidableEq, Inhabited, Repr

/-- Where the programs' streamed output goes. -/
inductive Terminal where
  | console
  | messages
  deriving DecidableEq, Inhabited, Repr

/-- The shell, installed both in the root and in the user directories, which share their
programs. -/
def shells : List (String × Executable) := [("/bin/sh", .shell), ("/usr/bin/sh", .shell)]

/-- A machine whose programs are shell scripts. -/
structure Host where
  programs : List (String × Executable) := shells
  searchPath : List String := []
  env : List (String × String) := []
  calls : Array String := #[]
  terminal : Terminal := .console
  nextPid : Nat := 100
  deriving Inhabited

namespace Host

/-- A host whose search path is one directory of logged scripts, each given by its name and
body, with an environment for its programs. -/
def withScripts (dir : String) (scripts : List (String × String))
    (env : List (String × String)) : Host :=
  { programs := shells ++
      scripts.map fun (name, body) => (dir ++ "/" ++ name, .logged name body)
    searchPath := [dir]
    env := ("PATH", dir) :: env }

def programAt (host : Host) (path : String) : Option Executable :=
  host.programs.lookup (Path.clean path)

def statFailure (disk : Disk) (path : String) : String :=
  match disk.lookup path with
  | .ok _ => "permission denied"
  | .error errno => "stat " ++ path ++ ": " ++ errno.text

/-- Finds a program: a name with a slash is checked where it points, any other name is looked
up in the search path. -/
def lookPath (host : Host) (disk : Disk) (name : String) : Except String String :=
  let failure (reason : String) := "exec: " ++ Quoted.quote name ++ ": " ++ reason
  if name.contains '/' then
    if (host.programAt name).isSome then .ok name
    else .error (failure (statFailure disk name))
  else
    match host.searchPath.find? fun dir => (host.programAt (dir ++ "/" ++ name)).isSome with
    | some dir => .ok (Path.clean (dir ++ "/" ++ name))
    | none => .error (failure "executable file not found in $PATH")

def resolve (host : Host) (disk : Disk) (name : String) : Except String String :=
  if name.isEmpty then .error "exec: no command"
  else if name.contains '/' then .ok name
  else host.lookPath disk name

/-- Creates the process of a resolved path: its executable, or the error of starting it. -/
def launch (host : Host) (disk : Disk) (path : String) : Except String Executable :=
  match host.programAt path with
  | some program => .ok program
  | none =>
    let reason := match disk.lookup path with
      | .ok _ => "permission denied"
      | .error errno => errno.text
    .error ("fork/exec " ++ path ++ ": " ++ reason)

def callLine (name : String) (args : List String) : String :=
  String.join (name :: args.map fun arg => " [" ++ arg ++ "]")

def shellFailure (disk : Disk) (argv0 message : String) : Shell.Outcome :=
  { ending := .exited 2, writes := #[(.err, argv0 ++ ": 0: " ++ message ++ "\n")], disk }

/-- Runs the executable found at a path, with its name as called, its arguments and its
standard input. A script knows itself by its path; the shell by the name it was called by. -/
def execute (host : Host) (disk : Disk) (program : Executable) (path argv0 : String)
    (args : List String) (stdin : String) : Shell.Outcome × Host :=
  let pid := host.nextPid
  let host := { host with nextPid := pid + 1 }
  let launchWith (name : String) (params : List String) : Shell.Launch :=
    { vars := host.env, params, name, pid, disk, stdin }
  match program with
  | .logged name body =>
    let host := { host with calls := host.calls.push (callLine name args) }
    (Shell.run (launchWith path args) body, host)
  | .shell =>
    match args with
    | "-c" :: script :: rest =>
      let (name, params) := match rest with
        | first :: more => (first, more)
        | [] => (argv0, [])
      (Shell.run (launchWith name params) script, host)
    | ["-c"] => (shellFailure disk argv0 "-c requires an argument", host)
    | file :: rest =>
      match disk.read file with
      | .content text => (Shell.run (launchWith file rest) text, host)
      | _ => (shellFailure disk argv0 ("cannot open " ++ file ++ ": No such file"), host)
    | [] => (Shell.run (launchWith argv0 []) stdin, host)

end Host

end Testbed
