import Testbed.Config.Basic
import Testbed.Text.ShellWords
import Testbed.Fault

/-!
# Commands run inside the test container

The shell commands of a test run, built from the settings: upgrading from a released version
through the published bootstrap script, running the copied installer, installing the test
requirements into the hub environment, listing what the hub environment resolved, and running
pytest on the test files. Words are shell-quoted, except the installer's arguments, which are
passed as written, and the test file paths, which are left unquoted so that the container's
shell expands patterns such as `test_*.py`.
-/

namespace Testbed.TestRun

def bootstrapDir : String := "bootstrap"
def testsDir : String := "integration-tests"

def upgradeCommand (config : Config) (version : String) : String :=
  "curl -L " ++ ShellWords.join [config.bootstrapUrl] ++ " | python3 - " ++
    ShellWords.join ["--version=" ++ version]

def installCommand (config : Config) (args : String) : String :=
  let command := ShellWords.join ["python3", Path.join [config.containerSrc, "bootstrap.py"]]
  if args.isEmpty then command else command ++ " " ++ args

def depsCommand (config : Config) : String :=
  ShellWords.join [config.hubPython, "-m", "pip", "install", "-r",
    Path.join [config.containerSrc, testsDir, "requirements.txt"]]

def freezeCommand (config : Config) : String :=
  ShellWords.join [config.hubPython, "-m", "pip", "freeze"]

def verifyCommand (config : Config) (files : List String) : String :=
  let base := ShellWords.join [config.hubPython, "-m", "pytest", "--verbose",
    "--maxfail=" ++ toString config.maxFail, "--color=yes", "--durations=10", "--capture=no"]
  files.foldl (fun command file => command ++ " " ++ Path.join [config.containerSrc, testsDir, file])
    base

/-- The host paths copied into the container, in order: the contents of the installer sources,
then the integration tests directory. -/
def fixtureSources (config : Config) : Except Fault (List String) := do
  let resolve (dir : String) : Except Fault String :=
    (config.sourcePath dir).mapError fun text =>
      Fault.context ("resolving " ++ dir) (some (.note text))
  let bootstrap ← resolve bootstrapDir
  let tests ← resolve testsDir
  pure [bootstrap ++ "/.", tests ++ "/"]

end Testbed.TestRun
