import Testbed.Toml.Document
import Testbed.Validation
import Testbed.Fault

/-!
# Loading settings from a file

Settings are read from a TOML file over the defaults. With no file named, the default file is
read when it exists, and the defaults are used otherwise; a named file must be readable.

The file's top-level keys are matched to settings by name, ignoring case. A setting takes a
value of its own type only: text for the names and paths, an integer for the failure limit, and
for the two durations either a duration text such as `1m30s` or an integer count of
nanoseconds. Keys that match no setting are refused, all of them named in sorted order. The
settings read are then checked against their rules.

Every failure is a configuration fault that names the file: it could not be read, it is not
TOML or holds a value of the wrong type, it has unknown keys, or its settings break a rule.
-/

namespace Testbed

/-- What loading settings needs from a file system. -/
structure FileSource where
  present : String → Bool
  read : String → Except Fault String

/-- The kinds of values settings take. -/
inductive SettingKind where
  | text
  | integer
  | duration
  deriving DecidableEq, Repr, Inhabited

namespace Config

def settingKinds : List (String × SettingKind) :=
  [("image", .text), ("build_context", .text), ("runtime", .text), ("memory", .text),
   ("source_root", .text), ("container_src", .text), ("hub_python", .text),
   ("bootstrap_url", .text), ("ready_timeout", .duration), ("poll_interval", .duration),
   ("max_fail", .integer), ("state_dir", .text)]

/-- A character folded for comparing names without case: ASCII letters to lowercase, and the
long s and the Kelvin sign to the letters they fold to. -/
def foldChar (c : Char) : Char :=
  if c.toNat == 0x17F then 's' else if c.toNat == 0x212A then 'k' else c.toLower

/-- Whether two names are equal ignoring case. -/
def sameName (a b : String) : Bool :=
  a.length == b.length && (a.toList.zip b.toList).all fun (x, y) => foldChar x == foldChar y

/-- The setting a key names: an exact match first, else the first match ignoring case. -/
def settingFor (key : String) : Option (String × SettingKind) :=
  match settingKinds.find? (·.1 == key) with
  | some found => some found
  | none => settingKinds.find? fun (name, _) => sameName name key

/-- Sets a text setting. -/
def setText (config : Config) (name value : String) : Config :=
  match name with
  | "image" => { config with image := value }
  | "build_context" => { config with buildContext := value }
  | "runtime" => { config with runtime := value }
  | "memory" => { config with memory := value }
  | "source_root" => { config with sourceRoot := value }
  | "container_src" => { config with containerSrc := value }
  | "hub_python" => { config with hubPython := value }
  | "bootstrap_url" => { config with bootstrapUrl := value }
  | "state_dir" => { config with stateDir := value }
  | _ => config

def setDuration (config : Config) (name : String) (value : Duration) : Config :=
  if name == "ready_timeout" then { config with readyTimeout := value }
  else { config with pollInterval := value }

/-- The message of a value of the wrong type for a key. -/
def typeMismatch (doc : Toml.Document) (key : String) (value : Toml.Value) (wanted : String) :
    String :=
  let name := Toml.keyText [key]
  let line := ((doc.kinds.lookup name).map (·.2)).getD 0
  let lead := if line > 0 then "toml: line " ++ toString line ++ " (last key " ++ Quoted.quote name ++ "): "
    else "toml: (last key " ++ Quoted.quote name ++ "): "
  lead ++ "incompatible types: TOML value has type " ++ value.typeName ++
    "; destination has type " ++ wanted

/-- Reads one top-level entry into the settings. -/
def readEntry (doc : Toml.Document) (config : Config) (entry : String × Toml.Value) :
    Except String Config :=
  let (key, value) := entry
  match settingFor key with
  | none => .ok config
  | some (name, kind) =>
    match kind, value with
    | .text, .string text => .ok (config.setText name text)
    | .text, _ => .error (typeMismatch doc key value "string")
    | .integer, .integer n => .ok { config with maxFail := n }
    | .integer, _ => .error (typeMismatch doc key value "integer")
    | .duration, .integer n => .ok (config.setDuration name ⟨n⟩)
    | .duration, .string text =>
      match Duration.parse? text with
      | some d => .ok (config.setDuration name d)
      | none =>
        let keyName := Toml.keyText [key]
        let line := ((doc.kinds.lookup keyName).map (·.2)).getD 0
        .error ("toml: line " ++ toString line ++ " (last key " ++ Quoted.quote keyName ++
          "): invalid duration: " ++ Quoted.quote text)
    | .duration, _ => .error (typeMismatch doc key value "integer")

def unknownKeys (doc : Toml.Document) : List String :=
  let used := doc.root.filterMap fun (key, _) =>
    (settingFor key).map fun _ => Toml.keyText [key]
  let unused := (doc.ordered.map Toml.keyText).filter (!used.contains ·)
  unused.mergeSort fun a b => !decide (b < a)

def ofToml (text : String) : Except String (Config × List String) := do
  let doc ← (Toml.parse text).mapError (·.render)
  let config ← doc.root.foldlM (readEntry doc) defaults
  pure (config, unknownKeys doc)

/-- Loads settings from a file, or the default file, or the defaults. -/
def load (source : FileSource) (path : String) : Except Fault Config := do
  let file := if path.isEmpty then defaultFile else path
  if path.isEmpty && !source.present file then return defaults
  let text ← (source.read file).mapError fun cause =>
    Fault.config ("failed to read config file " ++ file) (some cause)
  let (config, unknown) ← (ofToml text).mapError fun message =>
    Fault.config ("failed to parse config file " ++ file) (some (.note message))
  if !unknown.isEmpty then
    throw (Fault.config ("unknown keys in " ++ file ++ ": " ++ ", ".intercalate unknown) none)
  match config.validate with
  | .ok () => pure config
  | .error message => throw (Fault.config ("invalid config file " ++ file) (some (.note message)))

end Config

end Testbed
