import Testbed.Proofs.Text.ShellWords
import Testbed.Proofs.Text.Url
import Testbed.Proofs.Path
import Testbed.Proofs.Validation
import Testbed.TestRun.Commands

/-!
# How bash reads the commands of a test run

The commands a test run hands to `bash -c` are built from validated settings. Validation makes
the hub's interpreter and the source directory rooted paths and the download address a web
address with a scheme, so every quoted word of the commands reads plain: none starts a comment
or begins as an assignment. Bash then reads each command back as the words it was built from,
whatever the upgrade version holds. The installer's arguments and the test file paths are
passed unquoted on purpose; bash reads them after the command's own words as it would read
them alone.
-/

namespace Testbed.TestRun

open ShellWords

/-! ## Words from the settings -/

section Settings

variable {config : Config}

theorem settings_of_validate (valid : config.validate = .ok ()) :
    config.containerSrc.startsWith "/" = true ∧ config.hubPython.startsWith "/" = true ∧
      Url.acceptable config.bootstrapUrl = true := by
  rw [Config.validate, Validation.verdict_eq_ok_iff] at valid
  have keeps : ∀ field ∈ Validation.configFields config, ∀ rule ∈ field.rules,
      rule.holds field.value = true :=
    fun field member => ((Validation.Field.messages_eq_nil_iff field).1 (valid field member)).1
  refine ⟨?_, ?_, ?_⟩
  · exact keeps ⟨"container_src", .text config.containerSrc, [.required, .absolute], []⟩
      (by simp [Validation.configFields]) .absolute (by simp)
  · exact keeps ⟨"hub_python", .text config.hubPython, [.required, .absolute], []⟩
      (by simp [Validation.configFields]) .absolute (by simp)
  · exact keeps ⟨"bootstrap_url", .text config.bootstrapUrl, [.required, .url], []⟩
      (by simp [Validation.configFields]) .url (by simp)

theorem hubPython_readsPlain (valid : config.validate = .ok ()) : ReadsPlain config.hubPython :=
  ReadsPlain.of_rooted (settings_of_validate valid).2.1

theorem sourcePath_readsPlain (valid : config.validate = .ok ()) (rest : List String) :
    ReadsPlain (Path.join (config.containerSrc :: rest)) :=
  ReadsPlain.of_rooted (Path.startsWith_join (settings_of_validate valid).1 rest)

theorem bootstrapUrl_readsPlain (valid : config.validate = .ok ()) :
    ReadsPlain config.bootstrapUrl := by
  obtain ⟨front, rest, spelled, noEquals, noHash⟩ :=
    Url.acceptable_colon (settings_of_validate valid).2.2
  exact ReadsPlain.of_colon spelled noEquals noHash

theorem option_readsPlain (option value : String) : ReadsPlain ("--" ++ option ++ value) :=
  ReadsPlain.of_head (c := '-') (by simp) (by decide) (by decide)

theorem hubPython_not_reserved (valid : config.validate = .ok ()) :
    config.hubPython ∉ reservedWords :=
  not_mem_reservedWords_of_rooted (settings_of_validate valid).2.1

end Settings

/-! ## The commands -/

section Commands

variable {config : Config}

theorem upgradeCommand_eq (config : Config) (version : String) :
    upgradeCommand config version =
      join ["curl", "-L", config.bootstrapUrl] ++ " | " ++ join ["python3", "-", "--version=" ++ version] := by
  have curl : join ["curl", "-L", config.bootstrapUrl] = "curl -L " ++ join [config.bootstrapUrl] := by
    rw [show ["curl", "-L", config.bootstrapUrl] = ["curl", "-L"] ++ [config.bootstrapUrl] from rfl,
      join_append (by simp) (by simp)]
    exact congrArg (· ++ join [config.bootstrapUrl]) (by decide)
  have python : join ["python3", "-", "--version=" ++ version] =
      "python3 - " ++ join ["--version=" ++ version] := by
    rw [show ["python3", "-", "--version=" ++ version] = ["python3", "-"] ++ ["--version=" ++ version]
      from rfl, join_append (by simp) (by simp)]
    exact congrArg (· ++ join ["--version=" ++ version]) (by decide)
  rw [upgradeCommand, curl, python]
  simp only [String.append_assoc]
  rw [show " | python3 - " = " | " ++ "python3 - " by decide, String.append_assoc]

theorem upgradeCommand_reads (valid : config.validate = .ok ()) (version : String) :
    pipeline (tokens (upgradeCommand config version)) =
      some [["curl", "-L", config.bootstrapUrl], ["python3", "-", "--version=" ++ version]] := by
  have curlPlain : ∀ word ∈ ["curl", "-L", config.bootstrapUrl], ReadsPlain word := by
    simp only [List.mem_cons, List.not_mem_nil, or_false]
    rintro word (rfl | rfl | rfl)
    · decide
    · decide
    · exact bootstrapUrl_readsPlain valid
  have pythonPlain : ∀ word ∈ ["python3", "-", "--version=" ++ version], ReadsPlain word := by
    simp only [List.mem_cons, List.not_mem_nil, or_false]
    rintro word (rfl | rfl | rfl)
    · decide
    · decide
    · exact option_readsPlain "version=" version
  rw [upgradeCommand_eq, tokens_pipe curlPlain pythonPlain (by simp)]
  refine @pipeline_words [["curl", "-L", config.bootstrapUrl], ["python3", "-", "--version=" ++ version]]
    (by simp) ?_
  simp only [List.mem_cons, List.not_mem_nil, or_false]
  rintro command (rfl | rfl)
  · exact ⟨"curl", _, rfl, by decide⟩
  · exact ⟨"python3", _, rfl, by decide⟩

theorem depsCommand_reads (valid : config.validate = .ok ()) :
    pipeline (tokens (depsCommand config)) =
      some [[config.hubPython, "-m", "pip", "install", "-r",
        Path.join [config.containerSrc, testsDir, "requirements.txt"]]] := by
  have plain : ∀ word ∈ [config.hubPython, "-m", "pip", "install", "-r",
      Path.join [config.containerSrc, testsDir, "requirements.txt"]], ReadsPlain word := by
    simp only [List.mem_cons, List.not_mem_nil, or_false]
    rintro word (rfl | rfl | rfl | rfl | rfl | rfl)
    · exact hubPython_readsPlain valid
    · decide
    · decide
    · decide
    · decide
    · exact sourcePath_readsPlain valid _
  rw [depsCommand, tokens_join plain]
  refine @pipeline_words [[config.hubPython, "-m", "pip", "install", "-r",
    Path.join [config.containerSrc, testsDir, "requirements.txt"]]] (by simp) ?_
  simp only [List.mem_cons, List.not_mem_nil, or_false]
  rintro command rfl
  exact ⟨_, _, rfl, hubPython_not_reserved valid⟩

theorem freezeCommand_reads (valid : config.validate = .ok ()) :
    pipeline (tokens (freezeCommand config)) = some [[config.hubPython, "-m", "pip", "freeze"]] := by
  have plain : ∀ word ∈ [config.hubPython, "-m", "pip", "freeze"], ReadsPlain word := by
    simp only [List.mem_cons, List.not_mem_nil, or_false]
    rintro word (rfl | rfl | rfl | rfl)
    · exact hubPython_readsPlain valid
    all_goals decide
  rw [freezeCommand, tokens_join plain]
  refine @pipeline_words [[config.hubPython, "-m", "pip", "freeze"]] (by simp) ?_
  simp only [List.mem_cons, List.not_mem_nil, or_false]
  rintro command rfl
  exact ⟨_, _, rfl, hubPython_not_reserved valid⟩

theorem installCommand_reads (valid : config.validate = .ok ()) (args : String) :
    tokens (installCommand config args) =
      [Token.word "python3" false, .word (Path.join [config.containerSrc, "bootstrap.py"]) false] ++
        tokens args := by
  have plain : ∀ word ∈ ["python3", Path.join [config.containerSrc, "bootstrap.py"]],
      ReadsPlain word := by
    simp only [List.mem_cons, List.not_mem_nil, or_false]
    rintro word (rfl | rfl)
    · decide
    · exact sourcePath_readsPlain valid _
  unfold installCommand
  split
  · case isTrue empty =>
    rw [String.isEmpty_iff.1 empty, tokens_join plain]
    rfl
  · rw [String.append_assoc, tokens_join_append plain (by simp) (boundary_of_head? (by simp))]
    rw [tokens, String.toList_append, show (" " : String).toList = [' '] from rfl, List.cons_append,
      List.nil_append, scan_separator _ rfl]
    rfl

theorem foldl_append_spaced (path : String → String) (files : List String) (line : String) :
    files.foldl (fun command file => command ++ " " ++ path file) line =
      line ++ String.join (files.map fun file => " " ++ path file) := by
  induction files generalizing line with
  | nil => simp
  | cons file files ih =>
    rw [List.foldl_cons, ih, List.map_cons, String.join_cons]
    simp only [String.append_assoc]

theorem verifyCommand_reads (valid : config.validate = .ok ()) (files : List String) :
    tokens (verifyCommand config files) =
      [config.hubPython, "-m", "pytest", "--verbose", "--maxfail=" ++ toString config.maxFail,
          "--color=yes", "--durations=10", "--capture=no"].map (Token.word · false) ++
        tokens (String.join (files.map fun file => " " ++ Path.join [config.containerSrc, testsDir, file])) := by
  have plain : ∀ word ∈ [config.hubPython, "-m", "pytest", "--verbose",
      "--maxfail=" ++ toString config.maxFail, "--color=yes", "--durations=10", "--capture=no"],
      ReadsPlain word := by
    simp only [List.mem_cons, List.not_mem_nil, or_false]
    rintro word (rfl | rfl | rfl | rfl | rfl | rfl | rfl | rfl)
    · exact hubPython_readsPlain valid
    · decide
    · decide
    · decide
    · exact option_readsPlain "maxfail=" _
    all_goals decide
  have boundary : Boundary (String.join (files.map fun file =>
      " " ++ Path.join [config.containerSrc, testsDir, file])).toList := by
    cases files with
    | nil => simp [Boundary]
    | cons file files => exact boundary_of_head? (by simp [String.join_cons])
  rw [verifyCommand, foldl_append_spaced, tokens_join_append plain (by simp) boundary]

/-- Under validated settings, bash reads each command of a test run as the words it was built
from: the upgrade as the pipeline `curl -L <address> | python3 - --version=<version>`, whatever
the version holds; the requirements install and the freeze as single commands of their words;
the installer and pytest as their own words, then what bash reads of the arguments and of the
file paths passed unquoted after them. -/
theorem commands_read_as_built (valid : config.validate = .ok ()) (version args : String)
    (files : List String) :
    pipeline (tokens (upgradeCommand config version)) =
        some [["curl", "-L", config.bootstrapUrl], ["python3", "-", "--version=" ++ version]] ∧
      pipeline (tokens (depsCommand config)) =
        some [[config.hubPython, "-m", "pip", "install", "-r",
          Path.join [config.containerSrc, testsDir, "requirements.txt"]]] ∧
      pipeline (tokens (freezeCommand config)) = some [[config.hubPython, "-m", "pip", "freeze"]] ∧
      tokens (installCommand config args) =
        [Token.word "python3" false, .word (Path.join [config.containerSrc, "bootstrap.py"]) false] ++
          tokens args ∧
      tokens (verifyCommand config files) =
        [config.hubPython, "-m", "pytest", "--verbose", "--maxfail=" ++ toString config.maxFail,
            "--color=yes", "--durations=10", "--capture=no"].map (Token.word · false) ++
          tokens (String.join (files.map fun file => " " ++ Path.join [config.containerSrc, testsDir, file])) :=
  ⟨upgradeCommand_reads valid version, depsCommand_reads valid, freezeCommand_reads valid,
    installCommand_reads valid args, verifyCommand_reads valid files⟩

/-- The default settings, an upgrade to `1.0`, no installer arguments and a pattern of test
files. -/
theorem defaults_commands_read_as_built :
    Config.defaults.validate = .ok () ∧
      pipeline (tokens (upgradeCommand Config.defaults "1.0")) =
        some [["curl", "-L", Config.defaults.bootstrapUrl], ["python3", "-", "--version=" ++ "1.0"]] ∧
      pipeline (tokens (depsCommand Config.defaults)) =
        some [[Config.defaults.hubPython, "-m", "pip", "install", "-r",
          Path.join [Config.defaults.containerSrc, testsDir, "requirements.txt"]]] ∧
      pipeline (tokens (freezeCommand Config.defaults)) =
        some [[Config.defaults.hubPython, "-m", "pip", "freeze"]] ∧
      tokens (installCommand Config.defaults "") =
        [Token.word "python3" false,
          .word (Path.join [Config.defaults.containerSrc, "bootstrap.py"]) false] ++ tokens "" ∧
      tokens (verifyCommand Config.defaults ["test_*.py"]) =
        [Config.defaults.hubPython, "-m", "pytest", "--verbose",
            "--maxfail=" ++ toString Config.defaults.maxFail, "--color=yes", "--durations=10",
            "--capture=no"].map (Token.word · false) ++
          tokens (String.join (["test_*.py"].map fun file =>
            " " ++ Path.join [Config.defaults.containerSrc, testsDir, file])) :=
  ⟨Config.defaults_validate, commands_read_as_built Config.defaults_validate "1.0" "" ["test_*.py"]⟩

end Commands

end Testbed.TestRun
