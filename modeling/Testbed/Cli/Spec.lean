/-!
# The command line

The command line has global flags and one subcommand per operation. Each command has a usage
line, a one-line summary, an optional longer description and example, its own flags, and a
rule on how many arguments it takes. Help for a command shows its description, then its usage
line, examples, available subcommands, its own flags, the global flags, and a pointer to
further help; flags are listed in name order, with their value types, aligned in one column.
-/

namespace Testbed.Cli

/-- The value a flag takes. -/
inductive FlagKind where
  | text
  | switch
  | texts
  deriving DecidableEq, Repr, Inhabited

/-- A flag: its long name, optional one-letter name, kind and description. -/
structure FlagSpec where
  name : String
  shorthand : Option Char := none
  kind : FlagKind
  usage : String
  deriving DecidableEq, Repr, Inhabited

/-- How many arguments a command takes. -/
inductive ArgRule where
  | anything
  | none
  | exactly (count : Nat)
  | atLeast (count : Nat)
  deriving DecidableEq, Repr, Inhabited

/-- A command. -/
structure CommandSpec where
  name : String
  use : String
  short : String
  long : String := ""
  sample : String := ""
  flags : List FlagSpec := []
  args : ArgRule
  deriving Repr, Inhabited

def programName : String := "tljh-itest"

def globalFlags : List FlagSpec :=
  [⟨"config", none, .text, "Config file (default tljh-itest.toml when present)"⟩,
   ⟨"runtime", none, .text, "Container engine: auto, docker or podman"⟩,
   ⟨"verbose", some 'v', .switch, "Enable verbose output"⟩,
   ⟨"json", none, .switch, "Output logs in JSON format"⟩]

def helpFlag (name : String) : FlagSpec := ⟨"help", some 'h', .switch, "help for " ++ name⟩

/-- The top-level command. -/
def root : CommandSpec where
  name := programName
  use := programName
  short := "Integration test harness for The Littlest JupyterHub"
  long := "tljh-itest installs TLJH inside throwaway systemd containers and runs\n" ++
    "the integration test suite against it.\n\n" ++
    "A test run:\n" ++
    "  - replaces any container with the test's name\n" ++
    "  - waits until systemd inside answers\n" ++
    "  - copies the bootstrap and integration-tests sources to /srv/src\n" ++
    "  - optionally installs an older release first (--upgrade-from)\n" ++
    "  - runs the installer, installs test requirements and runs pytest\n\n" ++
    "Docker is used when present, otherwise podman."
  args := .anything

/-- The command that shows help for other commands. -/
def helpCommand : CommandSpec where
  name := "help"
  use := "help [command]"
  short := "Help about any command"
  long := "Help provides help for any command in the application.\n" ++
    "Simply type " ++ programName ++ " help [path to command] for full details."
  args := .anything

/-- The operations, in the order they are listed. -/
def operations : List CommandSpec :=
  [{ name := "build-image", use := "build-image", short := "Build the systemd test image",
     long := "Build the image named by the image config key from build_context.\n" ++
       "Each --build-arg is passed to the engine as a separate --build-arg flag,\n" ++
       "in the order given.",
     flags := [⟨"build-arg", none, .texts, "Build argument KEY=VALUE (repeatable)"⟩],
     args := .none },
   { name := "copy", use := "copy <name> <src> <dest>",
     short := "Copy a host path into a test container", args := .exactly 3 },
   { name := "events", use := "events <name>", short := "Display the run journal for a test",
     flags := [⟨"json-lines", none, .switch, "Output events as JSON lines"⟩,
               ⟨"clear", none, .switch, "Delete the journal instead of printing it"⟩],
     args := .exactly 1 },
   { name := "run", use := "run <name> <command>", short := "Run a shell command in a test container",
     long := "Run a command through /bin/bash -c inside the container, streaming\n" ++
       "its output. Extra arguments are joined with spaces.",
     sample := "  tljh-itest run basic-tests 'systemctl status jupyterhub'",
     args := .atLeast 2 },
   { name := "run-test", use := "run-test <name> <files...>",
     short := "Install TLJH in a fresh container and run tests",
     long := "Run the full sequence in a container called <name>: start it, wait for\n" ++
       "systemd, copy the sources, optionally install --upgrade-from first, run the\n" ++
       "installer with --installer-args, then run pytest on <files> (relative to\n" ++
       "integration-tests/). The first failing step stops the run.",
     sample := "  tljh-itest run-test basic-tests test_hub.py test_simplest_server.py\n" ++
       "  tljh-itest run-test --upgrade-from=0.2.0 --installer-args='--admin admin:admin' upgrade test_hub.py",
     flags := [⟨"installer-args", none, .text, "Arguments passed verbatim to bootstrap.py"⟩,
               ⟨"upgrade-from", none, .text, "Install this released version before the one under test"⟩,
               ⟨"bootstrap-pip-spec", none, .text, "Value for TLJH_BOOTSTRAP_PIP_SPEC inside the container"⟩],
     args := .atLeast 2 },
   { name := "show-logs", use := "show-logs <name>",
     short := "Print the systemd journal and hub service status", args := .exactly 1 },
   { name := "start-container", use := "start-container <name>", short := "Start a fresh test container",
     long := "Start a detached, privileged container from the configured image.\n" ++
       "Any existing container with the same name is removed first.",
     flags := [⟨"bootstrap-pip-spec", none, .text, "Value for TLJH_BOOTSTRAP_PIP_SPEC inside the container"⟩],
     args := .exactly 1 },
   { name := "stop-container", use := "stop-container <name>",
     short := "Remove a test container if it exists", args := .exactly 1 }]

def subcommands : List CommandSpec :=
  let all := helpCommand :: operations
  (all.toArray.qsort (fun a b => a.name < b.name)).toList

def CommandSpec.localFlags (cmd : CommandSpec) : List FlagSpec :=
  cmd.flags ++ [helpFlag cmd.name] ++ (if cmd.name == programName then globalFlags else [])

def CommandSpec.inheritedFlags (cmd : CommandSpec) : List FlagSpec :=
  if cmd.name == programName then [] else globalFlags

def CommandSpec.allFlags (cmd : CommandSpec) : List FlagSpec := cmd.localFlags ++ cmd.inheritedFlags

def CommandSpec.path (cmd : CommandSpec) : String :=
  if cmd.name == programName then programName else programName ++ " " ++ cmd.name

def padRight (width : Nat) (text : String) : String :=
  text ++ String.ofList (List.replicate (width - text.length) ' ')

def FlagKind.typeName : FlagKind → String
  | .text => "string"
  | .switch => ""
  | .texts => "stringArray"

/-- The flag table: one line per flag in name order, descriptions aligned. -/
def flagUsages (flags : List FlagSpec) : String :=
  let sorted := (flags.toArray.qsort (fun a b => a.name < b.name)).toList
  let heads := sorted.map fun flag =>
    let lead := match flag.shorthand with
      | some c => "  -" ++ c.toString ++ ", --" ++ flag.name
      | none => "      --" ++ flag.name
    let typeName := flag.kind.typeName
    (if typeName.isEmpty then lead else lead ++ " " ++ typeName, flag.usage)
  let width := (heads.map (·.1.utf8ByteSize + 1)).foldl max 0
  String.join (heads.map fun (head, usage) =>
    head ++ " " ++ String.ofList (List.replicate (width - head.utf8ByteSize) ' ') ++ " " ++ usage ++ "\n")

def trimEnd (text : String) : String :=
  String.ofList (text.toList.reverse.dropWhile (fun c => c == ' ' || c == '\n' || c == '\t' || c == '\r')).reverse

/-- The usage section of a command. -/
def usageText (cmd : CommandSpec) : String :=
  let isRoot := cmd.name == programName
  let useLine := if isRoot then "" else "\n  " ++ programName ++ " " ++ cmd.use ++ " [flags]"
  let pad := (subcommands.map (·.name.length)).foldl max 11
  "Usage:" ++ useLine ++
    (if isRoot then "\n  " ++ programName ++ " [command]" else "") ++
    (if cmd.sample.isEmpty then "" else "\n\nExamples:\n" ++ cmd.sample) ++
    (if isRoot then "\n\nAvailable Commands:" ++
      String.join (subcommands.map fun sub => "\n  " ++ padRight pad sub.name ++ " " ++ sub.short)
     else "") ++
    "\n\nFlags:\n" ++ trimEnd (flagUsages cmd.localFlags) ++
    (if cmd.inheritedFlags.isEmpty then "" else "\n\nGlobal Flags:\n" ++ trimEnd (flagUsages cmd.inheritedFlags)) ++
    (if isRoot then "\n\nUse \"" ++ programName ++ " [command] --help\" for more information about a command."
     else "") ++ "\n"

def helpText (cmd : CommandSpec) : String :=
  let lead := if cmd.long.isEmpty then cmd.short else cmd.long
  (if lead.isEmpty then "" else trimEnd lead ++ "\n\n") ++ usageText cmd

end Testbed.Cli
