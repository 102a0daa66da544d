/-!
# Commands and their output

A command names a program and its arguments, and says where the program's output goes: kept
for the caller (`capture`) or streamed to the terminal, and whether the error stream joins the
output stream (`mergeStderr`). A finished program gives back its exit status and what it wrote
to each stream that was kept.
-/

namespace Testbed.Program

/-- A program to run and where its output goes. -/
structure Command where
  name : String
  args : List String
  capture : Bool
  mergeStderr : Bool
  deriving DecidableEq, Repr, Inhabited

def Command.argv (command : Command) : List String := command.name :: command.args

/-- What a finished program gave back. -/
structure Output where
  status : Int
  stdout : String
  stderr : String
  deriving DecidableEq, Repr, Inhabited

end Testbed.Program
