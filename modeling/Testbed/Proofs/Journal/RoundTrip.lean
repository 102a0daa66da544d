import Mathlib.Data.List.Basic
import Testbed.Proofs.Disk
import Testbed.Proofs.Journal.Lines
import Testbed.Proofs.Json.Blanks
import Testbed.Proofs.Validation

/-!
# The journal gives back what was logged

A test's journal is one file in the `runs` directory of the state directory. Logging an event
makes that directory and appends the event's line; another writer may append lines of its own
between them. Every write leaves the journal a file whose text grows by one line, and leaves
every other entry of the disk alone apart from the directories above the journal, which come
to exist. Reading the journal back splits its text into the written lines: each event line
reads as its event, and a line that is not JSON reads as nothing, so the events come back in
the order they were logged, as long as no line is over the reader's limit.
-/

namespace Testbed.Journal

open Testbed.Path Testbed.Disk

/-! ## Where a test's journal is -/

section Place

/-- The directories of the journals below a state directory: what cleaning keeps of it, then
`runs`. -/
def journalDirs (stateDir : String) : List String := keptParts stateDir ++ ["runs"]

def journalName (test : String) : String := test ++ ".events.jsonl"

abbrev runsDir (stateDir : String) : String := compose (stateDir.startsWith "/") (journalDirs stateDir)

abbrev journalFile (stateDir test : String) : String :=
  compose (stateDir.startsWith "/") (journalDirs stateDir ++ [journalName test])

theorem journalDirs_ne_nil (stateDir : String) : journalDirs stateDir ≠ [] := by
  simp [journalDirs]

theorem plain_runs : Plain "runs" := ⟨by decide, by decide, by decide, by decide⟩

theorem not_asciiAlnum_slash : ¬AsciiAlnum '/' := by
  unfold AsciiAlnum
  decide

theorem plain_journalName {test : String} (named : ContainerNamed test) : Plain (journalName test) := by
  obtain ⟨first, rest, spelled, leading, following⟩ := named
  have longer : 2 < (journalName test).length := by
    simp only [journalName, String.length_append]
    have suffix : ".events.jsonl".length = 13 := by decide
    omega
  refine ⟨?_, ?_, ?_, ?_⟩
  · intro empty
    rw [empty] at longer
    exact absurd longer (by decide)
  · intro dot
    rw [dot] at longer
    exact absurd longer (by decide)
  · intro dots
    rw [dots] at longer
    exact absurd longer (by decide)
  · simp only [journalName, String.toList_append, spelled, List.cons_append, List.mem_cons,
      List.mem_append, not_or]
    refine ⟨fun same => not_asciiAlnum_slash (same ▸ leading), fun inRest => ?_, by decide⟩
    rcases following '/' inRest with alnum | same | same | same
    · exact not_asciiAlnum_slash alnum
    all_goals exact absurd same (by decide)

variable {stateDir : String} (noClimb : climbs (clean stateDir) = false)
include noClimb

theorem keptParts_plain : ∀ part ∈ keptParts stateDir, Plain part := by
  have plainOrUp := keptParts_plain_or_up stateDir
  have noUp : ".." ∉ keptParts stateDir :=
    up_not_mem_of_climbs _ (fun part member => bare_of_plain_or_up (plainOrUp part member))
      (by rwa [← clean_eq_compose])
  intro part member
  rcases plainOrUp part member with plain | rfl
  · exact plain
  · exact absurd member noUp

theorem journalDirs_plain : ∀ part ∈ journalDirs stateDir, Plain part := by
  intro part member
  rcases List.mem_append.1 member with kept | runs
  · exact keptParts_plain noClimb part kept
  · rw [List.mem_singleton.1 runs]
    exact plain_runs

theorem journal_plain {test : String} (named : ContainerNamed test) :
    ∀ part ∈ journalDirs stateDir ++ [journalName test], Plain part := by
  intro part member
  rcases List.mem_append.1 member with dir | file
  · exact journalDirs_plain noClimb part dir
  · rw [List.mem_singleton.1 file]
    exact plain_journalName named

/-- Below a state directory that does not climb, a test's journal is in the `runs` directory
of what cleaning keeps of the state directory. -/
theorem path_eq {test : String} (named : ContainerNamed test) :
    path stateDir test = .ok (journalFile stateDir test) := by
  have dirsPlain := journalDirs_plain noClimb
  have nonempty := journalDirs_ne_nil stateDir
  have bare : ∀ part ∈ journalDirs stateDir, Bare part := fun part member => (dirsPlain part member).bare
  have root : join [stateDir, "runs"] = runsDir stateDir :=
    join_plain stateDir plain_runs
  unfold path
  rw [root, show test ++ ".events.jsonl" = journalName test from rfl,
    within_plain (compose_ne_empty _ nonempty bare) (climbs_compose_of_plain _ dirsPlain)
      (plain_journalName named),
    startsWith_compose _ nonempty bare, keptParts_compose _ nonempty dirsPlain]
  rfl

end Place

/-! ## Writing to a journal -/

/-- A write to a test's journal: an event logged, or a line appended by another writer. -/
inductive Write where
  | logged (event : Event)
  | foreign (text : String)

namespace Write

def text : Write → String
  | .logged event => event.line
  | .foreign text => text

def event? : Write → Option Event
  | .logged event => some event
  | .foreign _ => none

/-- Performs a write: logs the event, or, for a line of another writer, makes the journal's
directory and appends the line and a line feed, as opening the file for appending does. -/
def perform (stateDir test : String) (disk : Disk) : Write → Except Fault Disk
  | .logged event => log disk stateDir event
  | .foreign text => do
    let file ← path stateDir test
    let disk ← disk.makeDirs (Path.dir file)
    disk.append file (text ++ "\n")

/-- A write that lands in the journal of `test`: an event of that test whose timestamp can be
written, or any line of another writer. -/
def Lands (test : String) : Write → Prop
  | .logged event => event.test = test ∧ event.timestamp.Proper
  | .foreign _ => True

/-- A write that the journal of `test` gives back: an event of that test whose timestamp can be
written, or a line of another writer that is one line and not JSON; either fits the reader's
limit. -/
def Fits (test : String) : Write → Prop
  | .logged event => event.test = test ∧ event.timestamp.Proper ∧ event.line.utf8ByteSize ≤ maxLineBytes
  | .foreign text =>
    '\n' ∉ text.toList ∧ (∀ value, Json.read text ≠ .ok value) ∧ text.utf8ByteSize ≤ maxLineBytes

theorem Fits.lands {test : String} {write : Write} (fits : write.Fits test) : write.Lands test := by
  cases write with
  | logged event => exact ⟨fits.1, fits.2.1⟩
  | foreign text => trivial

end Write

/-! ## Reading the writes back -/

/-- A line that is not JSON stays so with a carriage return at its end dropped, since a
carriage return is a blank after the value. -/
theorem not_read_trimReturn {text : String} (notJson : ∀ value, Json.read text ≠ .ok value) :
    ∀ value, Json.read (trimReturn text) ≠ .ok value := by
  intro value found
  unfold trimReturn at found
  split at found
  · rename_i ends
    obtain ⟨init, spelled⟩ := List.getLast?_eq_some_iff.1 ends
    have whole : text = String.ofList text.toList.dropLast ++ "\r" := by
      apply String.toList_injective
      simp [spelled]
    apply notJson value
    rw [whole]
    exact Json.read_append_blanks "\r" (by simp [Json.isBlank]) found
  · exact notJson value (by simpa using found)

/-- A written line reads back as what the write records: its event, or nothing for a line of
another writer. -/
theorem Write.eventOf_text {test : String} {write : Write} (fits : write.Fits test) :
    eventOf? write.text = write.event? := by
  cases write with
  | logged event =>
    obtain ⟨-, proper, -⟩ := fits
    have closed : event.line.toList.getLast? ≠ some '\r' := by
      rw [Event.getLast?_line]
      decide
    have nonempty : event.line.isEmpty = false := by
      cases empty : event.line.isEmpty
      · rfl
      · have ends := Event.getLast?_line event
        rw [show event.line = "" by simpa using empty] at ends
        simp at ends
    rw [Write.text, eventOf?, trimReturn_of_getLast? closed, nonempty,
      if_neg Bool.false_ne_true, Event.ofLine_line proper]
    rfl
  | foreign text =>
    obtain ⟨-, notJson, -⟩ := fits
    unfold eventOf?
    split
    · rfl
    · exact Event.ofLine_of_not_read (not_read_trimReturn notJson)

theorem readLines_written {test : String} {writes : List Write} (fits : ∀ write ∈ writes, write.Fits test) :
    readLines (lines (String.join (writes.map fun write => write.text ++ "\n"))) =
      (writes.filterMap Write.event?, none) := by
  have oneLine : ∀ text ∈ writes.map Write.text, '\n' ∉ text.toList := by
    simp only [List.mem_map]
    rintro _ ⟨write, member, rfl⟩
    cases write with
    | logged event => exact Event.lineFeed_not_mem_line event
    | foreign text => exact (fits _ member).1
  have small : ∀ write ∈ writes, write.text.utf8ByteSize ≤ maxLineBytes := by
    intro write member
    cases write with
    | logged event => exact (fits _ member).2.2
    | foreign text => exact (fits _ member).2.2
  have joined : writes.map (fun write => write.text ++ "\n") = (writes.map Write.text).map (· ++ "\n") := by
    simp
  rw [joined, lines_terminated _ oneLine, readLines_of_fit]
  · rw [List.filterMap_map, List.filterMap_congr fun write member => ?_]
    rw [Function.comp_apply]
    exact Write.eventOf_text (fits write member)
  · simp only [List.mem_map]
    rintro _ ⟨write, member, rfl⟩
    exact small write member

/-- A disk on which a test's journal can be made afresh: each directory on the way to it is a
directory or missing, and the journal itself is missing. -/
def Fresh (disk : Disk) (stateDir test : String) : Prop :=
  ∀ file, path stateDir test = .ok file →
    (∀ p ∈ prefixes (Path.dir file), disk.node? p = some .dir ∨ disk.node? p = none) ∧
      disk.node? file = none

section Writes

variable {stateDir test : String} (noClimb : climbs (clean stateDir) = false) (named : ContainerNamed test)
include noClimb named

/-- One write to an openable journal: it succeeds, the journal's text grows by the written line,
and no entry changes except the directories above the journal and the journal itself. -/
theorem perform_step {disk : Disk} {write : Write} (lands : write.Lands test)
    (openable : Openable disk (stateDir.startsWith "/") (journalDirs stateDir) (journalName test)) :
    ∃ after, write.perform stateDir test disk = .ok after ∧
      Ready after (stateDir.startsWith "/") (journalDirs stateDir) (journalName test) ∧
      after.textAt (journalFile stateDir test) =
        disk.textAt (journalFile stateDir test) ++ (write.text ++ "\n") ∧
      ∀ c, c ∉ prefixes (runsDir stateDir) → c ≠ journalFile stateDir test →
        after.node? c = disk.node? c := by
  have plain := journal_plain noClimb named
  have nonempty := journalDirs_ne_nil stateDir
  have located := path_eq noClimb named
  have directory := dir_compose (stateDir.startsWith "/") plain
  obtain ⟨made, madeOk, madeReady, madeFrame⟩ := openable.makeDirs nonempty plain
  have madeText := madeFrame _ (compose_not_mem_prefixes _ plain)
  cases write with
  | logged event =>
    obtain ⟨own, proper⟩ := lands
    subst own
    obtain ⟨opened, openedOk, openedReady, openedText, openedFrame⟩ := madeReady.append plain ""
    obtain ⟨written, writtenOk, writtenReady, writtenText, writtenFrame⟩ :=
      openedReady.append plain (event.line ++ "\n")
    refine ⟨written, ?_, writtenReady, ?_, ?_⟩
    · simp [Write.perform, log, located, directory, madeOk, openedOk,
        Timestamp.unwritable_eq_none proper, writtenOk, Except.mapError, bind, Except.bind]
    · rw [writtenText, openedText, textAt, textAt, madeText]
      simp [Write.text]
    · intro c above notFile
      rw [writtenFrame c notFile, openedFrame c notFile, madeFrame c above]
  | foreign line =>
    obtain ⟨appended, appendedOk, appendedReady, appendedText, appendedFrame⟩ :=
      madeReady.append plain (line ++ "\n")
    refine ⟨appended, ?_, appendedReady, ?_, ?_⟩
    · simp [Write.perform, located, directory, madeOk, appendedOk, bind, Except.bind]
    · rw [appendedText, textAt, textAt, madeText]
      rfl
    · intro c above notFile
      rw [appendedFrame c notFile, madeFrame c above]

/-- A run of writes to an openable journal: every write succeeds, the journal's text grows by the
written lines in order, and no entry changes except the directories above the journal and the
journal itself. -/
theorem perform_run {disk : Disk} {writes : List Write} (lands : ∀ write ∈ writes, write.Lands test)
    (openable : Openable disk (stateDir.startsWith "/") (journalDirs stateDir) (journalName test)) :
    ∃ final, writes.foldlM (Write.perform stateDir test) disk = .ok final ∧
      Openable final (stateDir.startsWith "/") (journalDirs stateDir) (journalName test) ∧
      final.textAt (journalFile stateDir test) =
        disk.textAt (journalFile stateDir test) ++
          String.join (writes.map fun write => write.text ++ "\n") ∧
      ∀ c, c ∉ prefixes (runsDir stateDir) → c ≠ journalFile stateDir test →
        final.node? c = disk.node? c := by
  induction writes generalizing disk with
  | nil => exact ⟨disk, rfl, openable, by simp, fun _ _ _ => rfl⟩
  | cons write writes induction =>
    obtain ⟨after, afterOk, afterReady, afterText, afterFrame⟩ :=
      perform_step noClimb named (lands write List.mem_cons_self) openable
    obtain ⟨final, finalOk, finalOpenable, finalText, finalFrame⟩ :=
      induction (fun other member => lands other (List.mem_cons_of_mem write member)) afterReady.openable
    refine ⟨final, ?_, finalOpenable, ?_, ?_⟩
    · simp [List.foldlM_cons, afterOk, finalOk, bind, Except.bind]
    · rw [finalText, afterText]
      simp [String.append_assoc]
    · intro c above notFile
      rw [finalFrame c above notFile, afterFrame c above notFile]

theorem events_openable {disk : Disk}
    (openable : Openable disk (stateDir.startsWith "/") (journalDirs stateDir) (journalName test)) :
    events disk stateDir test = readLines (lines (disk.textAt (journalFile stateDir test))) := by
  unfold events
  rw [path_eq noClimb named]
  rcases openable.read (journal_plain noClimb named) with ⟨missing, empty⟩ | found
  · simp only [missing, empty]
    rfl
  · simp only [found]

theorem remove_openable {disk : Disk}
    (openable : Openable disk (stateDir.startsWith "/") (journalDirs stateDir) (journalName test)) :
    ∃ after, remove disk stateDir test = .ok after ∧
      Openable after (stateDir.startsWith "/") (journalDirs stateDir) (journalName test) ∧
      after.textAt (journalFile stateDir test) = "" := by
  unfold remove
  rw [path_eq noClimb named]
  rcases openable.remove (journal_plain noClimb named) with
    ⟨removed, missing⟩ | ⟨next, removed, nextOpenable, gone, -⟩
  · exact ⟨disk, by simp [removed, bind, Except.bind, pure, Except.pure], openable,
      textAt_of_missing disk missing⟩
  · exact ⟨next, by simp [removed, bind, Except.bind, pure, Except.pure], nextOpenable,
      textAt_of_missing next gone⟩

theorem Fresh.openable {disk : Disk} (fresh : Fresh disk stateDir test) :
    Openable disk (stateDir.startsWith "/") (journalDirs stateDir) (journalName test) := by
  obtain ⟨clear, missing⟩ := fresh _ (path_eq noClimb named)
  rw [dir_compose _ (journal_plain noClimb named)] at clear
  exact ⟨clear, .inl missing⟩

theorem Fresh.textAt {disk : Disk} (fresh : Fresh disk stateDir test) :
    disk.textAt (journalFile stateDir test) = "" :=
  textAt_of_missing disk (fresh _ (path_eq noClimb named)).2

theorem fresh_empty : Fresh {} stateDir test := by
  intro file located
  rw [path_eq noClimb named, Except.ok.injEq] at located
  subst located
  refine ⟨fun p _ => ?_, ?_⟩
  · unfold node?
    split
    · exact .inl rfl
    · exact .inr rfl
  · rw [node?, compose_not_top _ (by simp) (journal_plain noClimb named)]
    rfl

end Writes

/-- Logged events come back from the journal in the order they were logged, with the lines of
other writers between them skipped, and no other test's journal sees them; once removed, the
journal reads as empty. This holds below a state directory that does not climb, for events
whose timestamps can be written and lines within the reader's limit. -/
theorem events_after_writes {stateDir test other : String} {disk : Disk} {writes : List Write}
    (noClimb : climbs (clean stateDir) = false)
    (named : validateTestName test = .ok ()) (otherNamed : validateTestName other = .ok ())
    (differ : other ≠ test) (fresh : Fresh disk stateDir test) (otherFresh : Fresh disk stateDir other)
    (fits : ∀ write ∈ writes, write.Fits test) :
    ∃ final, writes.foldlM (Write.perform stateDir test) disk = .ok final ∧
      events final stateDir test = (writes.filterMap Write.event?, none) ∧
      events final stateDir other = ([], none) ∧
      ∃ cleared, remove final stateDir test = .ok cleared ∧ events cleared stateDir test = ([], none) := by
  have own := (validateTestName_eq_ok_iff test).1 named
  have sibling := (validateTestName_eq_ok_iff other).1 otherNamed
  obtain ⟨final, performed, finalOpenable, finalText, finalFrame⟩ :=
    perform_run noClimb own (fun write member => (fits write member).lands) (fresh.openable noClimb own)
  have started := fresh.textAt noClimb own
  refine ⟨final, performed, ?_, ?_, ?_⟩
  · rw [events_openable noClimb own finalOpenable, finalText, started, String.empty_append]
    exact readLines_written fits
  · have names : journalName test ≠ journalName other := fun same =>
      differ (by simpa [journalName] using same.symm)
    have plain := journal_plain noClimb own
    have otherPlain := journal_plain noClimb sibling
    have untouched := finalFrame _
      (compose_not_mem_prefixes _ otherPlain) (compose_sibling_ne _ names plain otherPlain).symm
    have missing := (otherFresh _ (path_eq noClimb sibling)).2
    rw [← untouched] at missing
    rw [events_openable noClimb sibling ⟨finalOpenable.clear, .inl missing⟩,
      textAt_of_missing final missing]
    rfl
  · obtain ⟨cleared, removed, clearedOpenable, emptied⟩ := remove_openable noClimb own finalOpenable
    refine ⟨cleared, removed, ?_⟩
    rw [events_openable noClimb own clearedOpenable, emptied]
    rfl

theorem events_after_event_and_foreign_line :
    ∃ final, [Write.logged ⟨⟨2024, 1, 1, 0, 0, 0, 0, 0⟩, "r1", "t1", "build", "ok", ""⟩,
        .foreign "not json"].foldlM (Write.perform "st" "t1") {} = .ok final ∧
      events final "st" "t1" =
        ([Write.logged ⟨⟨2024, 1, 1, 0, 0, 0, 0, 0⟩, "r1", "t1", "build", "ok", ""⟩,
          .foreign "not json"].filterMap Write.event?, none) ∧
      events final "st" "t2" = ([], none) ∧
      ∃ cleared, remove final "st" "t1" = .ok cleared ∧ events cleared "st" "t1" = ([], none) := by
  have noClimb : climbs (clean "st") = false := by decide +kernel
  have named : validateTestName "t1" = .ok () := rfl
  have otherNamed : validateTestName "t2" = .ok () := rfl
  refine events_after_writes noClimb named otherNamed (by decide)
    (fresh_empty noClimb ((validateTestName_eq_ok_iff _).1 named))
    (fresh_empty noClimb ((validateTestName_eq_ok_iff _).1 otherNamed)) ?_
  intro write member
  simp only [List.mem_cons, List.not_mem_nil, or_false] at member
  rcases member with rfl | rfl
  · exact ⟨rfl, by decide, by decide⟩
  · refine ⟨by decide, fun value read => ?_, by decide⟩
    have unread : (Json.read "not json").toOption = none := rfl
    rw [read] at unread
    cases unread

/-- An event whose line is over the reader's limit is logged, but reading its journal back
stops at that line with a fault and gives no event. -/
theorem events_after_long_line {stateDir : String} {disk : Disk} {event : Event}
    (noClimb : climbs (clean stateDir) = false) (named : validateTestName event.test = .ok ())
    (fresh : Fresh disk stateDir event.test) (proper : event.timestamp.Proper)
    (long : maxLineBytes < event.line.utf8ByteSize) :
    ∃ final, log disk stateDir event = .ok final ∧
      events final stateDir event.test =
        ([], some (.context "error reading journal" (some (.note "bufio.Scanner: token too long")))) := by
  have own := (validateTestName_eq_ok_iff _).1 named
  have lands : (Write.logged event).Lands event.test := ⟨rfl, proper⟩
  obtain ⟨final, logged, finalReady, finalText, -⟩ :=
    perform_step noClimb own lands (fresh.openable noClimb own)
  have started := fresh.textAt noClimb own
  have oneLine : lines (event.line ++ "\n") = [event.line] := by
    have split := lines_terminated [event.line] (by simpa using Event.lineFeed_not_mem_line event)
    simpa only [List.map_cons, List.map_nil, String.join_cons, String.join_nil,
      String.append_empty] using split
  refine ⟨final, logged, ?_⟩
  rw [events_openable noClimb own finalReady.openable, finalText, started, String.empty_append, Write.text,
    oneLine]
  exact readLines_of_long [] event.line [] (by simp) long

theorem long_details_unread :
    ∃ final, log {} "st" ⟨⟨2024, 1, 1, 0, 0, 0, 0, 0⟩, "r1", "t1", "build", "ok",
        String.ofList (List.replicate 70000 'x')⟩ = .ok final ∧
      events final "st" "t1" =
        ([], some (.context "error reading journal" (some (.note "bufio.Scanner: token too long")))) := by
  have noClimb : climbs (clean "st") = false := by decide +kernel
  have named : validateTestName "t1" = .ok () := rfl
  have proper : Timestamp.Proper ⟨2024, 1, 1, 0, 0, 0, 0, 0⟩ := by decide
  have details := Event.length_details_le_line ⟨⟨2024, 1, 1, 0, 0, 0, 0, 0⟩, "r1", "t1", "build", "ok",
    String.ofList (List.replicate 70000 'x')⟩
  simp only [String.length_ofList, List.length_replicate] at details
  exact events_after_long_line noClimb named (fresh_empty noClimb ((validateTestName_eq_ok_iff _).1 named))
    proper (by unfold maxLineBytes; omega)

end Testbed.Journal
