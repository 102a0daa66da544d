/-!
# Log records

A log record has a level, a message and attributes. The attributes are key and text pairs in
the order they were given; the text of a value is fixed where the record is made, so the log
is plain data that a test can compare.
-/

namespace Testbed.Log

/-- How much a record matters. -/
inductive Level where
  | debug
  | info
  | warn
  | error
  deriving DecidableEq, Repr, Inhabited

def Level.name : Level → String
  | .debug => "DEBUG"
  | .info => "INFO"
  | .warn => "WARN"
  | .error => "ERROR"

abbrev Attr := String × String

/-- One record of the structured log. -/
structure Record where
  level : Level
  message : String
  attrs : List Attr
  deriving DecidableEq, Repr, Inhabited

end Testbed.Log
