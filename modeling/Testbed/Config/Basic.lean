import Testbed.Duration
import Testbed.Path
import Testbed.Text.Quoted

/-!
# Harness settings

The settings of the harness, their defaults, and the paths derived from them. Journals of runs
live in a `runs` directory under the state directory; source paths are placed under the source
root so that they cannot climb out of it. A test name doubles as a container name, so it must
start with a letter or digit and hold only letters, digits, underscores, periods and hyphens.
-/

namespace Testbed

/-- The settings of the harness. -/
structure Config where
  image : String
  buildContext : String
  runtime : String
  memory : String
  sourceRoot : String
  containerSrc : String
  hubPython : String
  bootstrapUrl : String
  readyTimeout : Duration
  pollInterval : Duration
  maxFail : Int
  stateDir : String
  deriving DecidableEq, Repr, Inhabited

namespace Config

/-- The settings file read when none is named. -/
def defaultFile : String := "tljh-itest.toml"

/-- The built-in settings. -/
def defaults : Config where
  image := "tljh-systemd"
  buildContext := "integration-tests"
  runtime := "auto"
  memory := "900m"
  sourceRoot := "."
  containerSrc := "/srv/src"
  hubPython := "/opt/tljh/hub/bin/python3"
  bootstrapUrl := "https://tljh.jupyter.org/bootstrap.py"
  readyTimeout := Duration.ofSeconds 60
  pollInterval := Duration.ofSeconds 5
  maxFail := 2
  stateDir := ".tljh-itest"

def runsDir (config : Config) : String := Path.join [config.stateDir, "runs"]

def sourcePath (config : Config) (rel : String) : Except String String :=
  Path.within config.sourceRoot rel

end Config

def containerNameChar (c : Char) : Bool :=
  (c.isAlphanum && c.toNat < 0x80) || c == '_' || c == '.' || c == '-'

/-- Whether a text is a container name: a letter or digit, then letters, digits, underscores,
periods and hyphens, all ASCII. -/
def isContainerName (name : String) : Bool :=
  match name.toList with
  | first :: rest => first.isAlphanum && first.toNat < 0x80 && rest.all containerNameChar
  | [] => false

/-- Checks that a test name can name a container. -/
def validateTestName (name : String) : Except String Unit :=
  if name.isEmpty then .error "test name cannot be empty"
  else if isContainerName name then .ok ()
  else .error ("invalid test name " ++ Quoted.quote name ++
    ": must start with a letter or digit and contain only letters, digits, underscores, " ++
    "periods, or hyphens")

end Testbed
