import Testbed.Fault

/-!
# Reading a fault chain

The codes, the exit status and the failed command of a fault are read off its chain. The
equations below say what each kind of fault adds to what its cause gives, so that a fault
built by wrapping is read from its layers, outside in.
-/

namespace Testbed.Fault

section Chain

variable (text summary : String) (code : Int) (cause : Fault)

/-! The chain read one layer at a time. These hold by computation, so a proof that reads a
chain does not wait on the equations Lean would otherwise derive for the nested recursion. -/

@[simp] theorem chain_context_some :
    (context text (some cause)).chain = context text (some cause) :: cause.chain := rfl

@[simp] theorem chain_coded_some :
    (coded code summary (some cause)).chain = coded code summary (some cause) :: cause.chain := rfl

@[simp] theorem chain_coded_none : (coded code summary none).chain = [coded code summary none] :=
  rfl

@[simp] theorem chain_note : (note text).chain = [note text] := rfl

@[simp] theorem chain_canceled : canceled.chain = [canceled] := rfl

@[simp] theorem chain_exited (argv : List String) (status : Int) (stderr : String) :
    (exited argv status stderr).chain = [exited argv status stderr] := rfl

end Chain

section Search

variable (code : Int) (text summary : String) (cause : Fault) (c : Int)

/-! A search of the chain for a coded fault stops at a coded fault and looks through every other
fault to its cause. -/

@[simp] theorem outermostCoded?_coded (cause : Option Fault) :
    (coded code summary cause).outermostCoded? = some (code, cause) := by
  cases cause <;> rfl

@[simp] theorem outermostCoded?_context_some :
    (context text (some cause)).outermostCoded? = cause.outermostCoded? := rfl

@[simp] theorem outermostCoded?_context_none : (context text none).outermostCoded? = none := rfl

@[simp] theorem outermostCoded?_note : (note text).outermostCoded? = none := rfl

@[simp] theorem outermostCoded?_canceled : canceled.outermostCoded? = none := rfl

@[simp] theorem outermostCoded?_exited (argv : List String) (status : Int) (stderr : String) :
    (exited argv status stderr).outermostCoded? = none := rfl

theorem hasCode_of_none {fault : Fault} (found : fault.outermostCoded? = none) :
    fault.hasCode c = false := by
  rw [hasCode]
  split <;> simp_all

/-- A round of the search for a code that finds a coded fault compares its code, then goes on
from its cause. -/
theorem hasCode_of_found {fault : Fault} {carried : Int} {cause : Option Fault}
    (found : fault.outermostCoded? = some (carried, cause)) :
    fault.hasCode c = (carried == c || cause.any (·.hasCode c)) := by
  rw [hasCode]
  cases cause <;> split <;> simp_all

theorem hasCode_congr {fault other : Fault} (same : fault.outermostCoded? = other.outermostCoded?) :
    fault.hasCode c = other.hasCode c := by
  cases found : other.outermostCoded? with
  | none => rw [hasCode_of_none c found, hasCode_of_none c (same.trans found)]
  | some pair => rw [hasCode_of_found c found, hasCode_of_found c (same.trans found)]

end Search

section Codes

variable (code : Int) (summary text : String) (cause : Fault) (c : Int)

attribute [local simp] exitCode ownCode?

@[simp] theorem hasCode_coded_some :
    (coded code summary (some cause)).hasCode c = (code == c || cause.hasCode c) := by
  simp [hasCode_of_found c (outermostCoded?_coded code summary (some cause))]

@[simp] theorem hasCode_coded_none : (coded code summary none).hasCode c = (code == c) := by
  simp [hasCode_of_found c (outermostCoded?_coded code summary none)]

@[simp] theorem hasCode_context_some :
    (context text (some cause)).hasCode c = cause.hasCode c :=
  hasCode_congr c (outermostCoded?_context_some text cause)

@[simp] theorem hasCode_context_none : (context text none).hasCode c = false :=
  hasCode_of_none c rfl

@[simp] theorem hasCode_note : (note text).hasCode c = false :=
  hasCode_of_none c rfl

@[simp] theorem hasCode_canceled : canceled.hasCode c = false :=
  hasCode_of_none c rfl

@[simp] theorem hasCode_exited (argv : List String) (status : Int) (stderr : String) :
    (exited argv status stderr).hasCode c = false :=
  hasCode_of_none c rfl

@[simp] theorem exitCode_coded (cause : Option Fault) :
    (coded code summary cause).exitCode = code := by
  cases cause <;> simp [List.findSome?_cons]

end Codes

section FailedCommand

variable (text : String) (cause : Fault)

attribute [local simp] failedCommand? command? List.findSome?_cons

@[simp] theorem failedCommand?_coded_some (code : Int) (summary : String) :
    (coded code summary (some cause)).failedCommand? = cause.failedCommand? := by
  simp

@[simp] theorem failedCommand?_context_some :
    (context text (some cause)).failedCommand? = cause.failedCommand? := by
  simp

@[simp] theorem failedCommand?_note : (note text).failedCommand? = none := by
  simp

@[simp] theorem failedCommand?_canceled : canceled.failedCommand? = none := by
  simp

@[simp] theorem failedCommand?_exited (argv : List String) (status : Int) (stderr : String) :
    (exited argv status stderr).failedCommand? = some (argv, status, stderr) := by
  simp

end FailedCommand

theorem commandFailed_reads (argv : List String) (status : Int) (stderr : String) :
    (∀ c, (commandFailed argv status stderr).hasCode c = (commandCode == c)) ∧
    (commandFailed argv status stderr).failedCommand? = some (argv, status, stderr) := by
  simp [commandFailed, wrap]

/-- A coded fault around a command that could not start, which is a plain text or a call-off,
carries its own code alone and names no failed command. -/
theorem coded_startFailure_reads (code : Int) (summary text : String) {cause : Fault}
    (plain : cause = canceled ∨ ∃ note, cause = .note note) :
    (coded code summary (some (context text (some cause)))).exitCode = code ∧
    (∀ c, (coded code summary (some (context text (some cause)))).hasCode c = true ↔ c = code) ∧
    (coded code summary (some (context text (some cause)))).failedCommand? = none := by
  refine ⟨exitCode_coded .., fun c => ?_, ?_⟩ <;> rcases plain with rfl | ⟨note, rfl⟩ <;> simp
  all_goals omega

/-- A coded fault around a failed engine command carries its own code and the command code, and
names the command. -/
theorem coded_commandFailed_reads (code : Int) (summary : String) (argv : List String)
    (status : Int) (stderr : String) :
    (coded code summary (some (commandFailed argv status stderr))).exitCode = code ∧
    (∀ c, (coded code summary (some (commandFailed argv status stderr))).hasCode c = true ↔
      c = code ∨ c = commandCode) ∧
    (coded code summary (some (commandFailed argv status stderr))).failedCommand? =
      some (argv, status, stderr) := by
  obtain ⟨codes, named⟩ := commandFailed_reads argv status stderr
  refine ⟨exitCode_coded .., fun c => ?_, by rw [failedCommand?_coded_some, named]⟩
  simp [codes]
  omega

/-! ## The chain read as a whole

Read off the whole chain, the search for a code, the exit status and the failed command say:
a code is carried when some coded fault of the chain carries it, the exit status is the code of
the outermost coded fault, and the failed command is the outermost one. -/

section Whole

def chainCodes (fault : Fault) : List Int := fault.chain.filterMap ownCode?

variable (code : Int) (text summary : String) (cause : Fault)

@[simp] theorem chainCodes_coded_some :
    (coded code summary (some cause)).chainCodes = code :: cause.chainCodes := rfl

@[simp] theorem chainCodes_coded_none : (coded code summary none).chainCodes = [code] := rfl

@[simp] theorem chainCodes_context_some :
    (context text (some cause)).chainCodes = cause.chainCodes := rfl

@[simp] theorem chainCodes_context_none : (context text none).chainCodes = [] := rfl

@[simp] theorem chainCodes_note : (note text).chainCodes = [] := rfl

@[simp] theorem chainCodes_canceled : canceled.chainCodes = [] := rfl

@[simp] theorem chainCodes_exited (argv : List String) (status : Int) (stderr : String) :
    (exited argv status stderr).chainCodes = [] := rfl

/-- The search for a code, which alternates finding the outermost coded fault with going on from
its cause, meets every coded fault of the chain and no other fault. -/
theorem hasCode_iff_mem_chainCodes : ∀ (fault : Fault) (c : Int),
    fault.hasCode c = true ↔ c ∈ fault.chainCodes
  | note _, _ => by simp only [hasCode_note, chainCodes_note]; simp
  | context _ none, _ => by simp only [hasCode_context_none, chainCodes_context_none]; simp
  | exited .., _ => by simp only [hasCode_exited, chainCodes_exited]; simp
  | canceled, _ => by simp only [hasCode_canceled, chainCodes_canceled]; simp
  | coded code _ none, c => by
    rw [hasCode_coded_none, chainCodes_coded_none, beq_iff_eq, List.mem_singleton, eq_comm]
  | context _ (some cause), c => by
    rw [hasCode_context_some, chainCodes_context_some]
    exact hasCode_iff_mem_chainCodes cause c
  | coded code _ (some cause), c => by
    rw [hasCode_coded_some, chainCodes_coded_some, Bool.or_eq_true, beq_iff_eq, List.mem_cons,
      hasCode_iff_mem_chainCodes cause c, eq_comm]

theorem exitCode_eq_headD (fault : Fault) :
    fault.exitCode = fault.chainCodes.headD generalCode := by
  rw [exitCode, chainCodes, List.headD_eq_head?_getD, List.head?_filterMap]

/-- The failed command named by a chain is its outermost one: no failed command stands before
it. -/
theorem failedCommand?_eq_some_iff (fault : Fault) (argv : List String) (status : Int)
    (stderr : String) :
    fault.failedCommand? = some (argv, status, stderr) ↔
      ∃ outer inner, fault.chain = outer ++ exited argv status stderr :: inner ∧
        ∀ link ∈ outer, link.command? = none := by
  rw [failedCommand?, List.findSome?_eq_some_iff]
  constructor
  · rintro ⟨outer, link, inner, spelled, named, before⟩
    have linkIs : link = exited argv status stderr := by
      cases link <;> simp_all [command?]
    exact ⟨outer, inner, linkIs ▸ spelled, before⟩
  · rintro ⟨outer, inner, spelled, before⟩
    exact ⟨outer, _, inner, spelled, rfl, before⟩

theorem chainCodes_coded (cause : Option Fault) :
    (coded code summary cause).chainCodes = code :: (cause.map chainCodes).getD [] := by
  cases cause <;> rfl

/-- What a fault chain says, read as a whole: whether it carries a code, its exit status, its
failed command, and the codes each constructor puts on it. -/
theorem coded_chain_reading :
    (∀ (fault : Fault) (c : Int), fault.hasCode c = true ↔ c ∈ fault.chainCodes) ∧
    (∀ fault : Fault, fault.exitCode = fault.chainCodes.headD generalCode) ∧
    (∀ (fault : Fault) argv status stderr,
      fault.failedCommand? = some (argv, status, stderr) ↔
        ∃ outer inner, fault.chain = outer ++ exited argv status stderr :: inner ∧
          ∀ link ∈ outer, link.command? = none) ∧
    ((∀ tried, (noRuntime tried).chainCodes = [2]) ∧
    (∀ argv status stderr, (commandFailed argv status stderr).chainCodes = [3] ∧
      (commandFailed argv status stderr).failedCommand? = some (argv, status, stderr)) ∧
    (∀ image cause, (buildFailed image cause).chainCodes = 4 :: (cause.map chainCodes).getD []) ∧
    (∀ container cause,
      (runFailed container cause).chainCodes = 5 :: (cause.map chainCodes).getD [] ∧
      (stopFailed container cause).chainCodes = 6 :: (cause.map chainCodes).getD [] ∧
      (execFailed container cause).chainCodes = 7 :: (cause.map chainCodes).getD []) ∧
    (∀ container source cause,
      (copyFailed container source cause).chainCodes = 8 :: (cause.map chainCodes).getD []) ∧
    (∀ container timeout cause,
      (notReady container timeout cause).chainCodes = 9 :: (cause.map chainCodes).getD []) ∧
    (∀ summary cause, (config summary cause).chainCodes = 10 :: (cause.map chainCodes).getD []) ∧
    (∀ summary, (invalid summary).chainCodes = [1])) := by
  refine ⟨hasCode_iff_mem_chainCodes, exitCode_eq_headD, failedCommand?_eq_some_iff, fun _ => rfl,
    fun argv status stderr => ⟨rfl, (commandFailed_reads argv status stderr).2⟩,
    fun _ _ => chainCodes_coded .., ?_, fun _ _ _ => chainCodes_coded ..,
    fun _ _ _ => chainCodes_coded .., fun _ _ => chainCodes_coded .., fun _ => rfl⟩
  intro container cause
  exact ⟨chainCodes_coded .., chainCodes_coded .., chainCodes_coded ..⟩

end Whole

end Testbed.Fault
