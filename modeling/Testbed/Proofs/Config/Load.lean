import Mathlib
import Testbed.Config.Load
import Testbed.App
import Testbed.Proofs.Validation
import Testbed.Proofs.Fault

/-!
# Loading settings: all of the file or nothing

Loading a settings file either gives settings or refuses with a configuration fault, and the
settings it gives are the defaults with exactly the settings the file names replaced by the
values it holds for them, and they pass validation. It refuses exactly when the file cannot be
read, is not TOML, holds a value of the wrong kind for a setting, has keys that name no setting,
or gives settings that break a rule. With no file named and no default file, the defaults are
used.

The settings are seen through `Config.get`, one value per setting: two settings records are
equal when they agree on every setting, so a statement about each setting says which record
was loaded.
-/

namespace Testbed

/-- The twelve settings. -/
inductive Setting where
  | image
  | buildContext
  | runtime
  | memory
  | sourceRoot
  | containerSrc
  | hubPython
  | bootstrapUrl
  | readyTimeout
  | pollInterval
  | maxFail
  | stateDir
  deriving DecidableEq, Repr

/-- The value of a setting. -/
inductive SettingValue where
  | text (value : String)
  | integer (value : Int)
  | duration (value : Duration)
  deriving DecidableEq, Repr

namespace Setting

def all : List Setting :=
  [image, buildContext, runtime, memory, sourceRoot, containerSrc, hubPython, bootstrapUrl,
   readyTimeout, pollInterval, maxFail, stateDir]

/-- The name of a setting in the settings file. -/
def name : Setting → String
  | image => "image"
  | buildContext => "build_context"
  | runtime => "runtime"
  | memory => "memory"
  | sourceRoot => "source_root"
  | containerSrc => "container_src"
  | hubPython => "hub_python"
  | bootstrapUrl => "bootstrap_url"
  | readyTimeout => "ready_timeout"
  | pollInterval => "poll_interval"
  | maxFail => "max_fail"
  | stateDir => "state_dir"

def kind : Setting → SettingKind
  | readyTimeout | pollInterval => .duration
  | maxFail => .integer
  | _ => .text

theorem mem_all (setting : Setting) : setting ∈ all := by
  cases setting <;> simp [all]

/-- The table of settings that loading reads keys against lists each setting once, by name
and kind. -/
theorem settingKinds_eq : Config.settingKinds = all.map fun setting => (setting.name, setting.kind) :=
  rfl

theorem name_injective : Function.Injective name := by
  intro first second same
  cases first <;> cases second <;> simp_all [name]

end Setting

namespace Config

/-- The value a settings record holds for a setting. -/
def get (config : Config) : Setting → SettingValue
  | .image => .text config.image
  | .buildContext => .text config.buildContext
  | .runtime => .text config.runtime
  | .memory => .text config.memory
  | .sourceRoot => .text config.sourceRoot
  | .containerSrc => .text config.containerSrc
  | .hubPython => .text config.hubPython
  | .bootstrapUrl => .text config.bootstrapUrl
  | .readyTimeout => .duration config.readyTimeout
  | .pollInterval => .duration config.pollInterval
  | .maxFail => .integer config.maxFail
  | .stateDir => .text config.stateDir

theorem ext_get {first second : Config} (same : ∀ setting, first.get setting = second.get setting) :
    first = second := by
  have image := same .image
  have buildContext := same .buildContext
  have runtime := same .runtime
  have memory := same .memory
  have sourceRoot := same .sourceRoot
  have containerSrc := same .containerSrc
  have hubPython := same .hubPython
  have bootstrapUrl := same .bootstrapUrl
  have readyTimeout := same .readyTimeout
  have pollInterval := same .pollInterval
  have maxFail := same .maxFail
  have stateDir := same .stateDir
  cases first
  cases second
  simp_all [get]

theorem get_setText {setting : Setting} (text : setting.kind = .text) (config : Config)
    (value : String) (other : Setting) :
    (config.setText setting.name value).get other =
      if other = setting then .text value else config.get other := by
  cases setting <;> simp [Setting.kind] at text <;> cases other <;> rfl

theorem get_setDuration {setting : Setting} (duration : setting.kind = .duration)
    (config : Config) (value : Duration) (other : Setting) :
    (config.setDuration setting.name value).get other =
      if other = setting then .duration value else config.get other := by
  cases setting <;> simp [Setting.kind] at duration <;> cases other <;> rfl

end Config

/-- The value a TOML value gives a setting of a kind: a text from a string, an integer from an
integer, and a duration from a duration text or from an integer count of nanoseconds. -/
def SettingKind.decode : SettingKind → Toml.Value → Option SettingValue
  | .text, .string value => some (.text value)
  | .integer, .integer n => some (.integer n)
  | .duration, .integer n => some (.duration ⟨n⟩)
  | .duration, .string value => (Duration.parse? value).map .duration
  | _, _ => none

namespace Config

theorem settingFor_eq_some {key : String} {found : String × SettingKind}
    (named : settingFor key = some found) : ∃ setting : Setting, found = (setting.name, setting.kind) := by
  have listed : found ∈ settingKinds := by
    unfold settingFor at named
    split at named
    · next exactly findsExactly =>
      cases named
      exact List.mem_of_find?_eq_some findsExactly
    · exact List.mem_of_find?_eq_some named
  rw [Setting.settingKinds_eq, List.mem_map] at listed
  obtain ⟨setting, -, rfl⟩ := listed
  exact ⟨setting, rfl⟩

theorem readEntry_unnamed (doc : Toml.Document) (base : Config) {key : String} (value : Toml.Value)
    (unnamed : settingFor key = none) : readEntry doc base (key, value) = .ok base := by
  simp [readEntry, unnamed]

/-- An entry whose key names a setting sets that setting alone to the value it decodes to, and
is refused when its value does not decode. -/
theorem readEntry_named (doc : Toml.Document) (base : Config) {key : String} (value : Toml.Value)
    {setting : Setting} (named : settingFor key = some (setting.name, setting.kind)) :
    match setting.kind.decode value with
    | some decoded => ∃ config, readEntry doc base (key, value) = .ok config ∧
        ∀ other, config.get other = if other = setting then decoded else base.get other
    | none => ∃ message, readEntry doc base (key, value) = .error message := by
  simp only [readEntry, named]
  cases kindIs : setting.kind with
  | text =>
    cases value <;> simp [SettingKind.decode, Config.get_setText kindIs]
  | integer =>
    have isMaxFail : setting = .maxFail := by
      cases setting <;> simp [Setting.kind] at kindIs ⊢
    subst isMaxFail
    cases value <;> simp [SettingKind.decode]
    intro other
    cases other <;> rfl
  | duration =>
    cases value with
    | integer n => simp [SettingKind.decode, Config.get_setDuration kindIs]
    | string text =>
      cases parsed : Duration.parse? text <;>
        simp [SettingKind.decode, parsed, Config.get_setDuration kindIs]
    | _ => simp [SettingKind.decode]

end Config

/-! ## Reading the entries of a document -/

def Decodes (entries : Toml.Table) : Prop :=
  ∀ entry ∈ entries, ∀ setting : Setting,
    Config.settingFor entry.1 = some (setting.name, setting.kind) →
      (setting.kind.decode entry.2).isSome

def lastValueFor (entries : Toml.Table) (setting : Setting) : Option Toml.Value :=
  ((entries.filter fun entry => Config.settingFor entry.1 == some (setting.name, setting.kind)).getLast?).map
    Prod.snd

/-- `config` is `base` with each setting that `entries` name replaced by the value the last entry
naming it decodes to, and every other setting kept. -/
def Overlays (entries : Toml.Table) (base config : Config) : Prop :=
  ∀ setting, match lastValueFor entries setting with
    | some value => setting.kind.decode value = some (config.get setting)
    | none => config.get setting = base.get setting

section Entries

variable {key : String} {value : Toml.Value} {rest : Toml.Table}

@[simp] theorem lastValueFor_nil (setting : Setting) : lastValueFor [] setting = none := rfl

theorem lastValueFor_cons (setting : Setting) :
    lastValueFor ((key, value) :: rest) setting =
      if Config.settingFor key = some (setting.name, setting.kind) then
        some ((lastValueFor rest setting).getD value)
      else lastValueFor rest setting := by
  unfold lastValueFor
  by_cases names : Config.settingFor key = some (setting.name, setting.kind)
  · rw [List.filter_cons_of_pos (by simpa using names), List.getLast?_cons, if_pos names]
    cases (rest.filter _).getLast? <;> rfl
  · rw [List.filter_cons_of_neg (by simpa using names), if_neg names]

theorem overlays_nil (base config : Config) : Overlays [] base config ↔ config = base := by
  constructor
  · intro overlaid
    exact Config.ext_get fun setting => by simpa using overlaid setting
  · rintro rfl setting
    simp

theorem Overlays.unique {entries : Toml.Table} {base first second : Config}
    (overlaidFirst : Overlays entries base first) (overlaidSecond : Overlays entries base second) :
    first = second := by
  refine Config.ext_get fun setting => ?_
  have atFirst := overlaidFirst setting
  have atSecond := overlaidSecond setting
  generalize lastValueFor entries setting = found at atFirst atSecond
  cases found with
  | some value => exact Option.some.inj (atFirst.symm.trans atSecond)
  | none => exact atFirst.trans atSecond.symm

theorem Overlays.iff_eq {entries : Toml.Table} {base found config : Config}
    (overlaid : Overlays entries base found) : Overlays entries base config ↔ config = found :=
  ⟨fun overlays => overlays.unique overlaid, fun configIs => configIs ▸ overlaid⟩

theorem decodes_cons_unnamed (unnamed : Config.settingFor key = none) :
    Decodes ((key, value) :: rest) ↔ Decodes rest := by
  simp [Decodes, unnamed]

theorem overlays_cons_unnamed (unnamed : Config.settingFor key = none) (base config : Config) :
    Overlays ((key, value) :: rest) base config ↔ Overlays rest base config := by
  unfold Overlays
  simp [lastValueFor_cons, unnamed]

/-- An entry that names a setting and decodes for it leaves the rest to decide what decodes,
and overlays the rest on the base with that setting set to its value. -/
theorem decodes_cons_named {named : Setting}
    (names : Config.settingFor key = some (named.name, named.kind))
    (decodes : (named.kind.decode value).isSome) :
    Decodes ((key, value) :: rest) ↔ Decodes rest := by
  constructor
  · intro all entry member
    exact all entry (List.mem_cons_of_mem _ member)
  · intro all entry member setting namesSetting
    rcases List.mem_cons.1 member with rfl | later
    · have same : setting = named :=
        Setting.name_injective (Prod.ext_iff.1 (Option.some.inj (namesSetting.symm.trans names))).1
      subst same
      exact decodes
    · exact all entry later setting namesSetting

theorem overlays_cons_named {named : Setting}
    (names : Config.settingFor key = some (named.name, named.kind)) {decoded : SettingValue}
    (decodes : named.kind.decode value = some decoded) {base stepped : Config}
    (step : ∀ other, stepped.get other = if other = named then decoded else base.get other)
    (config : Config) :
    Overlays ((key, value) :: rest) base config ↔ Overlays rest stepped config := by
  unfold Overlays
  refine forall_congr' fun setting => ?_
  rw [lastValueFor_cons, step]
  by_cases same : setting = named
  · subst same
    rw [if_pos names, if_pos rfl]
    cases lastValueFor rest setting with
    | some later => rfl
    | none =>
      dsimp only
      rw [Option.getD_none, decodes]
      exact ⟨fun equal => (Option.some.inj equal).symm, fun equal => congrArg some equal.symm⟩
  · have other : Config.settingFor key ≠ some (setting.name, setting.kind) := by
      rw [names]
      intro equal
      exact same (Setting.name_injective (Prod.ext_iff.1 (Option.some.inj equal)).1).symm
    rw [if_neg other, if_neg same]

end Entries

/-- Reading the entries one after the other over `base` succeeds exactly when every entry that
names a setting decodes, and it then gives `base` with the named settings overlaid. -/
theorem foldlM_readEntry_eq_ok_iff (doc : Toml.Document) (entries : Toml.Table) :
    ∀ base config : Config,
      entries.foldlM (Config.readEntry doc) base = .ok config ↔
        Decodes entries ∧ Overlays entries base config := by
  induction entries with
  | nil =>
    intro base config
    rw [List.foldlM_nil, overlays_nil]
    simp only [Decodes, List.not_mem_nil, false_implies, implies_true, true_and]
    exact ⟨fun read => (Except.ok.inj read).symm, fun equal => congrArg Except.ok equal.symm⟩
  | cons entry rest restRead =>
    intro base config
    obtain ⟨key, value⟩ := entry
    rw [List.foldlM_cons]
    cases names : Config.settingFor key with
    | none =>
      rw [Config.readEntry_unnamed doc base value names, decodes_cons_unnamed names,
        overlays_cons_unnamed names]
      exact restRead base config
    | some found =>
      obtain ⟨named, rfl⟩ := Config.settingFor_eq_some names
      have read := Config.readEntry_named doc base value names
      cases decodes : named.kind.decode value with
      | none =>
        rw [decodes] at read
        obtain ⟨message, refused⟩ := read
        rw [refused]
        refine ⟨fun stopped => (nomatch stopped), fun ⟨all, _⟩ => ?_⟩
        have decoded := all (key, value) List.mem_cons_self named names
        rw [decodes] at decoded
        exact absurd decoded (by simp)
      | some decoded =>
        rw [decodes] at read
        obtain ⟨stepped, readIs, step⟩ := read
        rw [readIs, decodes_cons_named names (by simp [decodes]),
          overlays_cons_named names decodes step]
        exact restRead stepped config

theorem foldlM_readEntry_of_decodes (doc : Toml.Document) (entries : Toml.Table) :
    ∀ base : Config, Decodes entries → ∃ config, entries.foldlM (Config.readEntry doc) base = .ok config := by
  induction entries with
  | nil => exact fun base _ => ⟨base, rfl⟩
  | cons entry rest restRead =>
    intro base decodes
    obtain ⟨key, value⟩ := entry
    rw [List.foldlM_cons]
    cases names : Config.settingFor key with
    | none =>
      rw [Config.readEntry_unnamed doc base value names]
      exact restRead base ((decodes_cons_unnamed names).1 decodes)
    | some found =>
      obtain ⟨named, rfl⟩ := Config.settingFor_eq_some names
      have decoded := decodes (key, value) List.mem_cons_self named names
      obtain ⟨result, decodesTo⟩ := Option.isSome_iff_exists.1 decoded
      have read := Config.readEntry_named doc base value names
      rw [decodesTo] at read
      obtain ⟨stepped, readIs, -⟩ := read
      rw [readIs]
      exact restRead stepped ((decodes_cons_named names decoded).1 decodes)

theorem not_decodes_of_readEntry_refused {doc : Toml.Document} {entries : Toml.Table}
    {base : Config} {message : String}
    (refused : entries.foldlM (Config.readEntry doc) base = .error message) :
    ¬ Decodes entries := fun decodes => by
  obtain ⟨_, reads⟩ := foldlM_readEntry_of_decodes doc entries base decodes
  rw [refused] at reads
  exact nomatch reads

/-! ## Reading a settings text -/

/-- Reading a settings text: parse it, read its entries over the defaults, and list the keys
that name no setting. -/
theorem ofToml_eq (text : String) :
    Config.ofToml text =
      match Toml.parse text with
      | .error problem => .error problem.render
      | .ok doc => (doc.root.foldlM (Config.readEntry doc) Config.defaults).map
          fun config => (config, Config.unknownKeys doc) := by
  unfold Config.ofToml
  cases Toml.parse text with
  | error problem => rfl
  | ok doc =>
    cases doc.root.foldlM (Config.readEntry doc) Config.defaults <;> rfl

/-- A settings text gives settings exactly when it parses and every entry that names a setting
decodes; the settings are the defaults with the named settings overlaid. -/
theorem ofToml_eq_ok_iff (text : String) (config : Config) (unknown : List String) :
    Config.ofToml text = .ok (config, unknown) ↔
      ∃ doc, Toml.parse text = .ok doc ∧ Decodes doc.root ∧
        Overlays doc.root Config.defaults config ∧ unknown = Config.unknownKeys doc := by
  rw [ofToml_eq]
  cases parsed : Toml.parse text with
  | error problem => simp
  | ok doc =>
    simp only [Except.ok.injEq, exists_eq_left']
    cases read : doc.root.foldlM (Config.readEntry doc) Config.defaults with
    | error message =>
      simp [Except.map, not_decodes_of_readEntry_refused read]
    | ok loaded =>
      obtain ⟨decodes, overlaid⟩ :=
        (foldlM_readEntry_eq_ok_iff doc doc.root Config.defaults loaded).1 read
      simp only [Except.map, Except.ok.injEq, Prod.mk.injEq, overlaid.iff_eq, decodes, true_and]
      exact ⟨fun ⟨loadedIs, unknownIs⟩ => ⟨loadedIs.symm, unknownIs.symm⟩,
        fun ⟨configIs, unknownIs⟩ => ⟨configIs.symm, unknownIs.symm⟩⟩

/-- A settings text is refused exactly when it does not parse or some entry that names a
setting does not decode. -/
theorem ofToml_refused_iff (text : String) :
    (∃ message, Config.ofToml text = .error message) ↔
      (∃ problem, Toml.parse text = .error problem) ∨
        ∃ doc, Toml.parse text = .ok doc ∧ ¬ Decodes doc.root := by
  rw [ofToml_eq]
  cases parsed : Toml.parse text with
  | error problem => simp
  | ok doc =>
    simp only [reduceCtorEq, exists_false, Except.ok.injEq, exists_eq_left', false_or]
    cases read : doc.root.foldlM (Config.readEntry doc) Config.defaults with
    | error message =>
      simp [Except.map, not_decodes_of_readEntry_refused read]
    | ok loaded =>
      have decodes := ((foldlM_readEntry_eq_ok_iff doc doc.root Config.defaults loaded).1 read).1
      simp [Except.map, decodes]

/-! ## The rules of the settings -/

/-- The rules every loaded settings record keeps. -/
structure Config.Valid (config : Config) : Prop where
  image : config.image ≠ ""
  buildContext : config.buildContext ≠ ""
  runtime : config.runtime = "auto" ∨ config.runtime = "docker" ∨ config.runtime = "podman"
  memory : config.memory ≠ ""
  sourceRoot : config.sourceRoot ≠ ""
  containerSrc : config.containerSrc ≠ "" ∧ config.containerSrc.startsWith "/" = true
  hubPython : config.hubPython ≠ "" ∧ config.hubPython.startsWith "/" = true
  bootstrapUrl : config.bootstrapUrl ≠ "" ∧ Url.acceptable config.bootstrapUrl = true
  readyTimeout : 0 < config.readyTimeout.nanos
  pollInterval : 0 < config.pollInterval.nanos
  maxFail : 1 ≤ config.maxFail
  stateDir : config.stateDir ≠ ""

theorem Config.validate_eq_ok_iff (config : Config) : config.validate = .ok () ↔ config.Valid := by
  rw [Config.validate, Validation.verdict_eq_ok_iff]
  simp only [Validation.configFields, List.mem_cons, List.not_mem_nil, or_false, forall_eq_or_imp,
    forall_eq, Validation.Field.messages_eq_nil_iff, Validation.Rule.holds, List.contains,
    List.elem_eq_mem, decide_eq_true_eq, Bool.not_eq_true', String.isEmpty_eq_false_iff,
    List.not_mem_nil, false_implies, implies_true, and_true, reduceCtorEq]
  constructor
  · rintro ⟨image, buildContext, runtime, memory, sourceRoot, containerSrc, hubPython,
      bootstrapUrl, readyTimeout, pollInterval, maxFail, stateDir⟩
    exact ⟨image, buildContext, runtime, memory, sourceRoot, containerSrc, hubPython,
      bootstrapUrl, readyTimeout, pollInterval, maxFail, stateDir⟩
  · rintro ⟨image, buildContext, runtime, memory, sourceRoot, containerSrc, hubPython,
      bootstrapUrl, readyTimeout, pollInterval, maxFail, stateDir⟩
    exact ⟨image, buildContext, runtime, memory, sourceRoot, containerSrc, hubPython,
      bootstrapUrl, readyTimeout, pollInterval, maxFail, stateDir⟩

/-! ## Loading -/

theorem isEmpty_eq_decide (path : String) : path.isEmpty = decide (path = "") :=
  Bool.eq_iff_iff.2 (by simp [String.isEmpty_iff])

/-- Loading in stages: the defaults when no file is named and the default file is absent, else
read the file, read its text, refuse unknown keys, and validate. -/
theorem load_eq (source : FileSource) (path : String) :
    let file := if path = "" then Config.defaultFile else path
    Config.load source path =
      if path = "" ∧ source.present Config.defaultFile = false then .ok Config.defaults
      else match source.read file with
        | .error cause => .error (Fault.config ("failed to read config file " ++ file) (some cause))
        | .ok text =>
          match Config.ofToml text with
          | .error message =>
            .error (Fault.config ("failed to parse config file " ++ file) (some (.note message)))
          | .ok (config, unknown) =>
            if unknown = [] then
              match config.validate with
              | .ok () => .ok config
              | .error message =>
                .error (Fault.config ("invalid config file " ++ file) (some (.note message)))
            else
              .error (Fault.config ("unknown keys in " ++ file ++ ": " ++ ", ".intercalate unknown)
                none) := by
  intro file
  unfold Config.load
  simp only [bind, Except.bind, Except.mapError, isEmpty_eq_decide, decide_eq_true_eq]
  by_cases skipped : path = "" ∧ source.present Config.defaultFile = false
  · obtain ⟨rfl, absent⟩ := skipped
    simp [absent]
    rfl
  · rw [if_neg skipped]
    have readsFile : ¬ (decide (path = "") && !source.present file) = true := by
      simp only [Bool.and_eq_true, decide_eq_true_eq, Bool.not_eq_true']
      rintro ⟨empty, absent⟩
      simp [file, empty] at absent
      exact skipped ⟨empty, absent⟩
    rw [if_neg readsFile]
    simp only [file]
    cases source.read (if path = "" then Config.defaultFile else path) with
    | error cause => rfl
    | ok text =>
      dsimp only
      cases Config.ofToml text with
      | error message => rfl
      | ok pair =>
        obtain ⟨config, unknown⟩ := pair
        dsimp only
        by_cases none : unknown = []
        · simp only [none, List.isEmpty_nil, Bool.not_true, Bool.false_eq_true, if_false, if_true]
          cases config.validate <;> rfl
        · have listed : (!unknown.isEmpty) = true := by simpa [List.isEmpty_iff] using none
          rw [if_pos listed, if_neg none]
          rfl

theorem load_refusal (source : FileSource) (path : String) {fault : Fault}
    (refused : Config.load source path = .error fault) :
    (∃ summary cause, fault = Fault.config summary cause) ∧ fault.exitCode = Fault.configCode := by
  have configFault : ∃ summary cause, fault = Fault.config summary cause := by
    rw [load_eq] at refused
    split at refused
    · cases refused
    · split at refused
      · cases refused
        exact ⟨_, _, rfl⟩
      · split at refused
        · cases refused
          exact ⟨_, _, rfl⟩
        · split at refused
          · split at refused
            · cases refused
            · cases refused
              exact ⟨_, _, rfl⟩
          · cases refused
            exact ⟨_, _, rfl⟩
  obtain ⟨summary, cause, rfl⟩ := configFault
  exact ⟨⟨summary, cause, rfl⟩, by simp [Fault.config]⟩

theorem reads_iff_not_skipped (source : FileSource) (path : String) :
    (path ≠ "" ∨ source.present Config.defaultFile = true) ↔
      ¬ (path = "" ∧ source.present Config.defaultFile = false) := by
  cases source.present Config.defaultFile <;> simp [or_iff_not_imp_left]

/-- Loading gives settings exactly when no file is named and the default file is absent, and
the settings are then the defaults; or when the file read is read, parses, holds values of the
right kind for the settings it names and no other keys, and the defaults with those settings
overlaid keep every rule, and the settings are then those. -/
theorem load_eq_ok_iff (source : FileSource) (path : String) (config : Config) :
    let file := if path = "" then Config.defaultFile else path
    Config.load source path = .ok config ↔
      (path = "" ∧ source.present Config.defaultFile = false ∧ config = Config.defaults) ∨
      ((path ≠ "" ∨ source.present Config.defaultFile = true) ∧
        ∃ text, source.read file = .ok text ∧ ∃ doc, Toml.parse text = .ok doc ∧
          Decodes doc.root ∧ Config.unknownKeys doc = [] ∧
          Overlays doc.root Config.defaults config ∧ config.Valid) := by
  intro file
  rw [load_eq]
  by_cases skipped : path = "" ∧ source.present Config.defaultFile = false
  · have notReads : ¬ (path ≠ "" ∨ source.present Config.defaultFile = true) :=
      fun reads => (reads_iff_not_skipped source path).1 reads skipped
    rw [if_pos skipped, or_iff_left (fun ⟨reads, _⟩ => notReads reads)]
    exact ⟨fun loaded => ⟨skipped.1, skipped.2, (Except.ok.inj loaded).symm⟩,
      fun ⟨_, _, configIs⟩ => congrArg Except.ok configIs.symm⟩
  · have reads := (reads_iff_not_skipped source path).2 skipped
    have notFirst : ¬ (path = "" ∧ source.present Config.defaultFile = false ∧
        config = Config.defaults) := fun ⟨empty, absent, _⟩ => skipped ⟨empty, absent⟩
    rw [if_neg skipped, or_iff_right notFirst, and_iff_right reads]
    cases read : source.read file with
    | error cause => simp
    | ok text =>
      simp only [Except.ok.injEq, exists_eq_left']
      cases toml : Config.ofToml text with
      | error message =>
        simp only [reduceCtorEq, false_iff, not_exists, not_and]
        intro doc parsed decodes
        rcases (ofToml_refused_iff text).1 ⟨message, toml⟩ with
          ⟨problem, unparsed⟩ | ⟨other, parsedOther, undecoded⟩
        · rw [parsed] at unparsed
          exact nomatch unparsed
        · rw [parsed] at parsedOther
          cases parsedOther
          exact absurd decodes undecoded
      | ok pair =>
        obtain ⟨loaded, unknown⟩ := pair
        obtain ⟨doc, parsed, decodes, overlaid, rfl⟩ := (ofToml_eq_ok_iff text loaded unknown).1 toml
        simp only [parsed, Except.ok.injEq, exists_eq_left', decodes, true_and, overlaid.iff_eq]
        by_cases known : Config.unknownKeys doc = []
        · rw [if_pos known, ← Config.validate_eq_ok_iff]
          cases valid : loaded.validate with
          | error message =>
            simp only [reduceCtorEq, false_iff, not_and]
            rintro - rfl validated
            rw [valid] at validated
            cases validated
          | ok _ =>
            simp only [Except.ok.injEq, known, true_and]
            constructor
            · rintro rfl
              exact ⟨rfl, valid⟩
            · rintro ⟨rfl, -⟩
              rfl
        · rw [if_neg known]
          simp [known]

/-- Loading refuses exactly when it reads a file and the file cannot be read, does not parse,
holds a value of the wrong kind for a setting it names, has keys that name no setting, or gives
settings that break a rule. -/
theorem load_refused_iff (source : FileSource) (path : String) :
    let file := if path = "" then Config.defaultFile else path
    (∃ fault, Config.load source path = .error fault) ↔
      (path ≠ "" ∨ source.present Config.defaultFile = true) ∧
        ((∃ cause, source.read file = .error cause) ∨
          ∃ text, source.read file = .ok text ∧
            ((∃ problem, Toml.parse text = .error problem) ∨
              ∃ doc, Toml.parse text = .ok doc ∧
                (¬ Decodes doc.root ∨ Config.unknownKeys doc ≠ [] ∨
                  ∃ config, Overlays doc.root Config.defaults config ∧ ¬ config.Valid))) := by
  intro file
  rw [load_eq]
  by_cases skipped : path = "" ∧ source.present Config.defaultFile = false
  · have notReads : ¬ (path ≠ "" ∨ source.present Config.defaultFile = true) :=
      fun reads => (reads_iff_not_skipped source path).1 reads skipped
    rw [if_pos skipped]
    simp only [reduceCtorEq, exists_false, false_iff, not_and]
    exact fun reads => absurd reads notReads
  · have reads := (reads_iff_not_skipped source path).2 skipped
    rw [if_neg skipped, and_iff_right reads]
    cases read : source.read file with
    | error cause => simp
    | ok text =>
      simp only [reduceCtorEq, exists_false, Except.ok.injEq, exists_eq_left', false_or]
      cases toml : Config.ofToml text with
      | error message =>
        simp only [Except.error.injEq, exists_eq', true_iff]
        rcases (ofToml_refused_iff text).1 ⟨message, toml⟩ with
          ⟨problem, unparsed⟩ | ⟨doc, parsed, undecoded⟩
        · exact .inl ⟨problem, unparsed⟩
        · exact .inr ⟨doc, parsed, .inl undecoded⟩
      | ok pair =>
        obtain ⟨loaded, unknown⟩ := pair
        obtain ⟨doc, parsed, decodes, overlaid, rfl⟩ := (ofToml_eq_ok_iff text loaded unknown).1 toml
        have broken : (∃ config, Overlays doc.root Config.defaults config ∧ ¬ config.Valid) ↔
            ¬ loaded.Valid := by
          simp only [overlaid.iff_eq, exists_eq_left]
        simp only [parsed, reduceCtorEq, exists_false, Except.ok.injEq, exists_eq_left', false_or,
          decodes, not_true_eq_false]
        rw [broken, ← Config.validate_eq_ok_iff]
        by_cases known : Config.unknownKeys doc = []
        · rw [if_pos known]
          cases loaded.validate with
          | error message => simp [known]
          | ok _ => simp [known]
        · rw [if_neg known]
          simp [known]

theorem load_unknown_keys (source : FileSource) (path : String) {text : String}
    {doc : Toml.Document}
    (reads : path ≠ "" ∨ source.present Config.defaultFile = true)
    (read : source.read (if path = "" then Config.defaultFile else path) = .ok text)
    (parsed : Toml.parse text = .ok doc) (decodes : Decodes doc.root)
    (unknown : Config.unknownKeys doc ≠ []) :
    Config.load source path = .error (Fault.config ("unknown keys in " ++
      (if path = "" then Config.defaultFile else path) ++ ": " ++
      ", ".intercalate (Config.unknownKeys doc)) none) := by
  obtain ⟨loaded, folded⟩ := foldlM_readEntry_of_decodes doc doc.root Config.defaults decodes
  have toml : Config.ofToml text = .ok (loaded, Config.unknownKeys doc) := by
    rw [ofToml_eq, parsed]
    simp [folded, Except.map]
  rw [load_eq, if_neg ((reads_iff_not_skipped source path).1 reads)]
  simp only [read, toml, if_neg unknown]

/-! ## The keys that name no setting -/

theorem unknownKeys_sorted (doc : Toml.Document) : (Config.unknownKeys doc).Pairwise (· ≤ ·) := by
  let notAfter : String → String → Bool := fun first second => !decide (second < first)
  have orders : ∀ first second, notAfter first second = true ↔ first ≤ second := by
    simp only [notAfter, Bool.not_eq_true', decide_eq_false_iff_not, not_lt, implies_true]
  have trans : ∀ first second third, notAfter first second = true →
      notAfter second third = true → notAfter first third = true := by
    simp only [orders]
    exact fun _ _ _ => le_trans
  have total : ∀ first second, (notAfter first second || notAfter second first) = true := by
    simp only [Bool.or_eq_true, orders]
    exact le_total
  unfold Config.unknownKeys
  exact (List.pairwise_mergeSort trans total _).imp (orders _ _).1

/-- A key is listed as unknown exactly when the document holds it and it is not the key of a
top-level entry that names a setting. -/
theorem mem_unknownKeys (doc : Toml.Document) (name : String) :
    name ∈ Config.unknownKeys doc ↔
      (∃ key ∈ doc.ordered, Toml.keyText key = name) ∧
        ∀ entry ∈ doc.root, (Config.settingFor entry.1).isSome → Toml.keyText [entry.1] ≠ name := by
  unfold Config.unknownKeys
  simp [Option.isSome_iff_exists]

/-! ## Loading into the app -/

/-- Loading into the app keeps its settings when no file is named and the default file is
absent; otherwise it replaces them with the loaded settings, or refuses as loading refuses. -/
theorem loadConfig_eq (app : App) (source : FileSource) (path : String) :
    app.loadConfig source path =
      if path = "" ∧ source.present Config.defaultFile = false then .ok app
      else (Config.load source path).map fun config => { app with config } := by
  unfold App.loadConfig
  simp only [isEmpty_eq_decide, Bool.and_eq_true, decide_eq_true_eq, Bool.not_eq_true']
  split
  · rfl
  · cases Config.load source path <;> rfl

/-! ## Loading, all told -/

/-- Loading gives the defaults overlaid with every setting the file names, keeping every rule,
or refuses with a configuration fault, which ends the command line with status 10. It refuses
exactly when it reads a file and the file cannot be read, does not parse, holds a value of the
wrong kind, has keys that name no setting (all of them listed, sorted, in the message) or gives
settings that break a rule. With no file named and no default file it gives the defaults, and
loading into the app replaces the app's settings with the loaded ones. -/
theorem load_overlays_or_refuses (source : FileSource) (path : String) :
    let file := if path = "" then Config.defaultFile else path
    (∀ config, Config.load source path = .ok config ↔
      (path = "" ∧ source.present Config.defaultFile = false ∧ config = Config.defaults) ∨
      ((path ≠ "" ∨ source.present Config.defaultFile = true) ∧
        ∃ text, source.read file = .ok text ∧ ∃ doc, Toml.parse text = .ok doc ∧
          Decodes doc.root ∧ Config.unknownKeys doc = [] ∧
          Overlays doc.root Config.defaults config ∧ config.Valid)) ∧
    (∀ fault, Config.load source path = .error fault →
      (∃ summary cause, fault = Fault.config summary cause) ∧ fault.exitCode = 10) ∧
    ((∃ fault, Config.load source path = .error fault) ↔
      (path ≠ "" ∨ source.present Config.defaultFile = true) ∧
        ((∃ cause, source.read file = .error cause) ∨
          ∃ text, source.read file = .ok text ∧
            ((∃ problem, Toml.parse text = .error problem) ∨
              ∃ doc, Toml.parse text = .ok doc ∧
                (¬ Decodes doc.root ∨ Config.unknownKeys doc ≠ [] ∨
                  ∃ config, Overlays doc.root Config.defaults config ∧ ¬ config.Valid)))) ∧
    (∀ text doc, (path ≠ "" ∨ source.present Config.defaultFile = true) →
      source.read file = .ok text → Toml.parse text = .ok doc → Decodes doc.root →
      Config.unknownKeys doc ≠ [] →
      Config.load source path = .error (Fault.config ("unknown keys in " ++ file ++ ": " ++
          ", ".intercalate (Config.unknownKeys doc)) none) ∧
        (Config.unknownKeys doc).Pairwise (· ≤ ·) ∧
        ∀ name, name ∈ Config.unknownKeys doc ↔
          (∃ key ∈ doc.ordered, Toml.keyText key = name) ∧
            ∀ entry ∈ doc.root, (Config.settingFor entry.1).isSome →
              Toml.keyText [entry.1] ≠ name) ∧
    (path = "" → source.present Config.defaultFile = false →
      Config.load source path = .ok Config.defaults) ∧
    (∀ app : App, app.loadConfig source path =
      if path = "" ∧ source.present Config.defaultFile = false then .ok app
      else (Config.load source path).map fun config => { app with config }) := by
  intro file
  refine ⟨load_eq_ok_iff source path, fun fault refused => ?_, load_refused_iff source path,
    fun text doc reads read parsed decodes unknown => ⟨?_, unknownKeys_sorted doc,
      mem_unknownKeys doc⟩, fun empty absent => ?_, fun app => loadConfig_eq app source path⟩
  · obtain ⟨configFault, coded⟩ := load_refusal source path refused
    exact ⟨configFault, coded⟩
  · exact load_unknown_keys source path reads read parsed decodes unknown
  · exact (load_eq_ok_iff source path Config.defaults).2 (.inl ⟨empty, absent, rfl⟩)

/-- With no default file, loading with no file named gives the defaults, and a named file that
cannot be read is refused with status 10. -/
theorem load_defaults_or_unreadable_exits_ten :
    let source : FileSource := ⟨fun _ => false, fun _ => .error (Fault.note "no such file")⟩
    Config.load source "" = .ok Config.defaults ∧
      Config.load source "site.toml" = .error (Fault.config "failed to read config file site.toml"
        (some (Fault.note "no such file"))) ∧
      (Fault.config "failed to read config file site.toml" (some (Fault.note "no such file"))).exitCode
        = 10 := by
  intro source
  have unreadable : Config.load source "site.toml" = .error (Fault.config
      "failed to read config file site.toml" (some (Fault.note "no such file"))) := rfl
  exact ⟨(load_overlays_or_refuses source "").2.2.2.2.1 rfl rfl, unreadable,
    ((load_overlays_or_refuses source "site.toml").2.1 _ unreadable).2⟩

end Testbed
