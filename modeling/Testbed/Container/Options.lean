/-!
# What the harness asks of a container engine

Options for building an image and for starting a container, and the short summary of a
container that the harness reads back from the engine.
-/

namespace Testbed.Container

/-- The memory ceiling of a container when none is asked for: the documented minimum footprint
of the product under test. -/
def defaultMemory : String := "900m"

def pipSpecVariable : String := "TLJH_BOOTSTRAP_PIP_SPEC"

/-- How to build and tag an image. `buildArgs` are `KEY=VALUE` pairs passed in order; `none`
means no list was given at all, which is told apart from an empty list. -/
structure BuildOptions where
  tag : String
  context : String
  buildArgs : Option (List String)
  deriving DecidableEq, Repr, Inhabited

/-- How to start a container: its image, name, memory ceiling (empty for the default), and
where the installer inside installs itself from (empty for its own default). -/
structure RunOptions where
  image : String
  name : String
  memory : String
  pipSpec : String
  deriving DecidableEq, Repr, Inhabited

/-- A short summary of a container's metadata. -/
structure State where
  id : String := ""
  name : String := ""
  image : String := ""
  status : String := ""
  running : Bool := false
  exitCode : Int := 0
  startedAt : String := ""
  error : String := ""
  privileged : Bool := false
  memory : Int := 0
  deriving DecidableEq, Repr, Inhabited

end Testbed.Container
