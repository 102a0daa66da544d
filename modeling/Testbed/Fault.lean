import Testbed.Text.ShellWords
import Testbed.Text.Quoted
import Testbed.Text.Blank
import Testbed.Duration

/-!
# Faults

A fault is why an operation stopped. Faults form a chain: a fault may name the fault that
caused it, and its message is its own text followed by the message of its cause. A coded fault
carries the exit status the command line ends with; the status of a chain is the code of its
outermost coded fault, and 1 when it has none. `hasCode` asks whether any coded fault of the
chain carries a code, however deep.
-/

namespace Testbed

/-- Why an operation stopped. -/
inductive Fault where
  | note (text : String)
  | context (text : String) (cause : Option Fault)
  | coded (code : Int) (summary : String) (cause : Option Fault)
  | exited (argv : List String) (status : Int) (stderr : String)
  | canceled
  deriving Repr, Inhabited, BEq

namespace Fault

def generalCode : Int := 1
def noRuntimeCode : Int := 2
def commandCode : Int := 3
def buildCode : Int := 4
def runCode : Int := 5
def stopCode : Int := 6
def execCode : Int := 7
def copyCode : Int := 8
def notReadyCode : Int := 9
def configCode : Int := 10

def exitedText (argv : List String) (status : Int) (stderr : String) : String :=
  let head := "command " ++ Quoted.quote (ShellWords.join argv) ++ " exited with status " ++
    toString status
  let detail := Text.trimBlanks stderr
  if detail.isEmpty then head else head ++ ": " ++ detail

/-- The text of a fault: its own text, then its cause's. -/
def message : Fault → String
  | note text => text
  | context text none => text ++ ": %!w(<nil>)"
  | context text (some cause) => text ++ ": " ++ cause.message
  | coded _ summary none => summary
  | coded _ summary (some cause) => summary ++ ": " ++ cause.message
  | exited argv status stderr => exitedText argv status stderr
  | canceled => "context canceled"

def cause? : Fault → Option Fault
  | context _ cause => cause
  | coded _ _ cause => cause
  | _ => none

/-- The chain from a fault down to its deepest cause. -/
def chain : Fault → List Fault
  | note text => [note text]
  | context text none => [context text none]
  | context text (some cause) => context text (some cause) :: cause.chain
  | coded code summary none => [coded code summary none]
  | coded code summary (some cause) => coded code summary (some cause) :: cause.chain
  | exited argv status stderr => [exited argv status stderr]
  | canceled => [canceled]

def ownCode? : Fault → Option Int
  | coded code _ _ => some code
  | _ => none

def exitCode (fault : Fault) : Int :=
  (fault.chain.findSome? ownCode?).getD generalCode

/-- What a search of the chain for a coded fault finds: the code and the cause of the outermost
coded fault. -/
def outermostCoded? (fault : Fault) : Option (Int × Option Fault) :=
  fault.chain.findSome? fun
    | coded code _ cause => some (code, cause)
    | _ => none

theorem chain_suffix_of_mem : ∀ {fault link : Fault}, link ∈ fault.chain → link.chain <:+ fault.chain
  | note _, _, member | context _ none, _, member | coded _ _ none, _, member
  | exited .., _, member | canceled, _, member => by
    obtain rfl := List.mem_singleton.1 member
    exact List.suffix_refl _
  | context _ (some cause), _, member | coded _ _ (some cause), _, member => by
    rcases List.mem_cons.1 member with rfl | deeper
    · exact List.suffix_refl _
    · exact (chain_suffix_of_mem deeper).trans (List.suffix_cons _ _)

/-- The cause of the coded fault a search finds has a shorter chain than the fault searched:
searching again from it comes to an end. -/
theorem length_chain_lt_of_outermostCoded? {fault cause : Fault} {code : Int}
    (found : fault.outermostCoded? = some (code, some cause)) :
    cause.chain.length < fault.chain.length := by
  obtain ⟨outer, link, inner, spelled, picks, -⟩ := List.findSome?_eq_some_iff.1 found
  have linkIs : ∃ summary, link = coded code summary (some cause) := by
    cases link <;> simp_all
  obtain ⟨summary, rfl⟩ := linkIs
  have tail := (chain_suffix_of_mem (spelled ▸ List.mem_append_right outer
    List.mem_cons_self)).length_le
  simp only [chain, List.length_cons] at tail
  omega

/-- Whether some coded fault of the chain carries `code`. The search finds the outermost coded
fault, compares its code, and goes on from that fault's cause. -/
def hasCode (fault : Fault) (code : Int) : Bool :=
  match _found : fault.outermostCoded? with
  | none => false
  | some (carried, none) => carried == code
  | some (carried, some cause) => carried == code || cause.hasCode code
termination_by fault.chain.length
decreasing_by exact length_chain_lt_of_outermostCoded? ‹_›

def codes (fault : Fault) : List Int :=
  ((List.range 10).map fun (n : Nat) => ((n + 1 : Nat) : Int)).filter fault.hasCode

def isCanceled (fault : Fault) : Bool := fault.chain.any (· == canceled)

def command? : Fault → Option (List String × Int × String)
  | exited argv status stderr => some (argv, status, stderr)
  | _ => none

def failedCommand? (fault : Fault) : Option (List String × Int × String) :=
  fault.chain.findSome? command?

def plain (code : Int) (summary : String) : Fault := coded code summary none

def wrap (code : Int) (summary : String) (cause : Fault) : Fault := coded code summary (some cause)

def noRuntime (tried : List String) : Fault :=
  plain noRuntimeCode ("no container runtime found, tried: " ++ " ".intercalate tried)

def commandFailed (argv : List String) (status : Int) (stderr : String) : Fault :=
  wrap commandCode "runtime command failed" (exited argv status stderr)

def buildFailed (image : String) (cause : Option Fault) : Fault :=
  coded buildCode ("building image " ++ image ++ " failed") cause

def runFailed (container : String) (cause : Option Fault) : Fault :=
  coded runCode ("starting container " ++ container ++ " failed") cause

def stopFailed (container : String) (cause : Option Fault) : Fault :=
  coded stopCode ("stopping container " ++ container ++ " failed") cause

def execFailed (container : String) (cause : Option Fault) : Fault :=
  coded execCode ("command in container " ++ container ++ " failed") cause

def copyFailed (container source : String) (cause : Option Fault) : Fault :=
  coded copyCode ("copying " ++ source ++ " into container " ++ container ++ " failed") cause

def notReady (container : String) (timeout : Duration) (cause : Option Fault) : Fault :=
  coded notReadyCode ("container " ++ container ++ " hasn't started within " ++ timeout.render)
    cause

def config (summary : String) (cause : Option Fault) : Fault := coded configCode summary cause

/-- Input that breaks a rule; it ends the command line with the general status. -/
def invalid (summary : String) : Fault := plain generalCode summary

/-- A field read through an answer that holds no value: the program stops there, with this
runtime error, and nothing after it runs. -/
def nilDereference : Fault :=
  note "runtime error: invalid memory address or nil pointer dereference"

end Fault

end Testbed
