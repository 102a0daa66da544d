import Testbed.Support.Trial

/-!
# Fixtures

The fixtures of the tests: a settings file that overrides every built-in setting, and the
checkout that test containers receive, a bootstrap script and an integration-test tree.
-/

namespace Testbed.Support

def sampleConfig : String :=
  "image = \"tljh-test\"\nbuild_context = \"ci/image\"\nruntime = \"podman\"\nmemory = \"1g\"\n" ++
  "source_root = \".\"\ncontainer_src = \"/srv/src\"\nhub_python = \"/opt/tljh/hub/bin/python3\"\n" ++
  "bootstrap_url = \"https://tljh.jupyter.org/bootstrap.py\"\nready_timeout = \"30s\"\n" ++
  "poll_interval = \"2s\"\nmax_fail = 3\nstate_dir = \".state\"\n"

/-- The checkout copied into test containers, by path under its root. -/
def sourceFiles : List (String × String) :=
  [("bootstrap/bootstrap.py", "print(\x27bootstrap\x27)\n"),
   ("integration-tests/requirements.txt", "pytest\n"),
   ("integration-tests/test_hub.py", "def test_hub():\n    pass\n"),
   ("integration-tests/test_installer.py", "def test_installer():\n    pass\n"),
   ("integration-tests/Dockerfile", "FROM ubuntu:22.04\n"),
   ("integration-tests/plugins/__init__.py", "")]

/-- Writes the checkout under a root, creating its directories. -/
def writeSourceTree (root : String) : TrialM Unit := do
  for (rel, content) in sourceFiles do
    let path := Path.join [root, rel]
    let dir := Path.dir path
    Trial.onDisk (·.makeDirs dir) fun fault =>
      "Failed to create " ++ dir ++ ": " ++ fault.message
    Trial.onDisk (·.write path content) fun fault =>
      "Failed to write " ++ path ++ ": " ++ fault.message

end Testbed.Support
