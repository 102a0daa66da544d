import Testbed.Validation
import Testbed.Fault

/-!
# Test invocations

An invocation asks for one test run: the image to start, the test name that also names the
container, the test files to run, and optional settings for the installer. It is valid when
the image is given, the test name is given and can name a container, and at least one test file
is given with no empty entry. Fields are named as the harness's own record names them.
-/

namespace Testbed.TestRun

/-- One test-run request. -/
structure Invocation where
  image : String := ""
  testName : String := ""
  pipSpec : String := ""
  testFiles : List String := []
  upgradeFrom : String := ""
  installerArgs : String := ""
  deriving DecidableEq, Repr, Inhabited

namespace Invocation

def fields (inv : Invocation) : List Validation.Field :=
  [⟨"Image", .text inv.image, [.required], []⟩,
   ⟨"TestName", .text inv.testName, [.required, .containerName], []⟩,
   ⟨"TestFiles", .items inv.testFiles, [.atLeast 1], [.required]⟩]

/-- The invocation when it is valid, else a validation fault. -/
def validate (inv : Invocation) : Except Fault Invocation :=
  match Validation.verdict inv.fields with
  | .ok () => .ok inv
  | .error message => .error (Fault.invalid message)

end Invocation

end Testbed.TestRun
