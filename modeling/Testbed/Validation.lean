import Testbed.Text.Quoted
import Testbed.Text.Url
import Testbed.Config.Basic

/-!
# Field validation

A record is validated field by field, in the order of its fields. Each field has a list of
rules, checked in order; the first rule it breaks gives the field's message, and the later
rules of that field are not checked. A list field may also have rules for each of its
elements, which are checked only when the list's own rules hold; an element's messages name it
with its index, `TestFiles[1]`.

The messages of all fields together make the verdict: none means valid, one gives
`validation error: <message>`, several give `validation errors: ` and the messages joined by
`; `.
-/

namespace Testbed.Validation

/-- A value a rule looks at. -/
inductive Value where
  | text (value : String)
  | number (value : Int)
  | items (values : List String)
  deriving DecidableEq, Repr, Inhabited

/-- A rule on a field. -/
inductive Rule where
  | required
  | oneOf (options : List String)
  | absolute
  | url
  | greaterThan (bound : Int)
  | atLeast (bound : Int)
  | containerName
  deriving DecidableEq, Repr, Inhabited

/-- Whether a value keeps a rule. -/
def Rule.holds : Rule → Value → Bool
  | .required, .text v => !v.isEmpty
  | .required, .number v => v != 0
  | .required, .items vs => !vs.isEmpty
  | .oneOf options, .text v => options.contains v
  | .absolute, .text v => v.startsWith "/"
  | .url, .text v => Url.acceptable v
  | .greaterThan bound, .number v => v > bound
  | .atLeast bound, .number v => v ≥ bound
  | .atLeast bound, .items vs => (vs.length : Int) ≥ bound
  | .containerName, .text v => isContainerName v
  | _, _ => true

/-- The message of a field that breaks a rule. -/
def Rule.message (rule : Rule) (field : String) (value : Value) : String :=
  let named := "field '" ++ field ++ "' "
  match rule with
  | .required => named ++ "is required but missing"
  | .oneOf options => named ++ "must be one of: " ++ " ".intercalate options
  | .absolute => named ++ "must be an absolute path"
  | .url => named ++ "must be a valid URL"
  | .greaterThan bound => named ++ "must be greater than " ++ toString bound
  | .atLeast bound => named ++ "must be at least " ++ toString bound
  | .containerName =>
    let shown := match value with
      | .text v => Quoted.quote v
      | .number v => toString v
      | .items vs => toString vs
    named ++ "is not a valid container name: " ++ shown

/-- A field to validate: its name, its value, its rules, and the rules of each element. -/
structure Field where
  name : String
  value : Value
  rules : List Rule
  elementRules : List Rule := []

def firstBroken (name : String) (value : Value) (rules : List Rule) : Option String :=
  (rules.find? fun rule => !rule.holds value).map fun rule => rule.message name value

/-- The messages of one field. -/
def Field.messages (field : Field) : List String :=
  match firstBroken field.name field.value field.rules with
  | some message => [message]
  | none =>
    match field.value with
    | .items values =>
      (List.range values.length).zip values |>.filterMap fun (index, element) =>
        firstBroken (field.name ++ "[" ++ toString index ++ "]") (.text element) field.elementRules
    | _ => []

def verdict (fields : List Field) : Except String Unit :=
  match fields.flatMap Field.messages with
  | [] => .ok ()
  | [message] => .error ("validation error: " ++ message)
  | messages => .error ("validation errors: " ++ "; ".intercalate messages)

/-- The fields of the settings, named as in the settings file. -/
def configFields (config : Config) : List Field :=
  [⟨"image", .text config.image, [.required], []⟩,
   ⟨"build_context", .text config.buildContext, [.required], []⟩,
   ⟨"runtime", .text config.runtime, [.oneOf ["auto", "docker", "podman"]], []⟩,
   ⟨"memory", .text config.memory, [.required], []⟩,
   ⟨"source_root", .text config.sourceRoot, [.required], []⟩,
   ⟨"container_src", .text config.containerSrc, [.required, .absolute], []⟩,
   ⟨"hub_python", .text config.hubPython, [.required, .absolute], []⟩,
   ⟨"bootstrap_url", .text config.bootstrapUrl, [.required, .url], []⟩,
   ⟨"ready_timeout", .number config.readyTimeout.nanos, [.greaterThan 0], []⟩,
   ⟨"poll_interval", .number config.pollInterval.nanos, [.greaterThan 0], []⟩,
   ⟨"max_fail", .number config.maxFail, [.atLeast 1], []⟩,
   ⟨"state_dir", .text config.stateDir, [.required], []⟩]

end Testbed.Validation

namespace Testbed.Config

def validate (config : Config) : Except String Unit := Validation.verdict (Validation.configFields config)

end Testbed.Config
