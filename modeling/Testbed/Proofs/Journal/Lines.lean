import Testbed.Journal.Store
import Testbed.Proofs.Journal.Event

/-!
# Splitting a journal into lines and reading them

Text written as lines, each ended by a line feed, splits back into those lines. Reading lines
that all fit the reader's limit gives the events of the lines that are events, a carriage
return at the end of a line dropped, in order, and no fault; the first line over the limit
stops the reading with a fault, and every event after it is lost.
-/

namespace Testbed.Journal

theorem lines_eq (content : String) :
    lines content =
      (if (content.toList.splitOn '\n').getLast? = some [] then (content.toList.splitOn '\n').dropLast
        else content.toList.splitOn '\n').map String.ofList := rfl

theorem trimReturn_of_getLast? {text : String} (notReturn : text.toList.getLast? ≠ some '\r') :
    trimReturn text = text := by
  simp [trimReturn, notReturn]

theorem flatMap_append_separator (sep : Char) (pieces : List (List Char)) :
    pieces.flatMap (· ++ [sep]) = [sep].intercalate (pieces ++ [[]]) := by
  induction pieces with
  | nil => rfl
  | cons piece pieces induction =>
    rw [List.flatMap_cons, induction, List.cons_append,
      List.intercalate_cons_of_ne_nil (by simp), List.append_assoc]

theorem lines_terminated (texts : List String) (noFeed : ∀ text ∈ texts, '\n' ∉ text.toList) :
    lines (String.join (texts.map (· ++ "\n"))) = texts := by
  have chars : (String.join (texts.map (· ++ "\n"))).toList =
      ['\n'].intercalate (texts.map String.toList ++ [[]]) := by
    rw [String.toList_join, ← flatMap_append_separator]
    simp [List.flatMap_map]
  have pieces : (String.join (texts.map (· ++ "\n"))).toList.splitOn '\n' =
      texts.map String.toList ++ [[]] := by
    rw [chars, List.splitOn_intercalate]
    · intro piece member
      rcases List.mem_append.1 member with written | ending
      · obtain ⟨text, inTexts, rfl⟩ := List.mem_map.1 written
        exact noFeed text inTexts
      · simp at ending
        simp [ending]
    · simp
  rw [lines_eq, pieces]
  simp

/-- The event a line of the file reads as, once a carriage return at its end is dropped: none
for an empty line or one that is not an event. -/
def eventOf? (text : String) : Option Event :=
  if (trimReturn text).isEmpty then none else Event.ofLine? (trimReturn text)

theorem readLines_cons_of_fit (text : String) (rest : List String) (fit : text.utf8ByteSize ≤ maxLineBytes) :
    readLines (text :: rest) = ((eventOf? text).toList ++ (readLines rest).1, (readLines rest).2) := by
  rw [readLines, if_neg (by omega)]
  by_cases empty : (trimReturn text).isEmpty
  · simp [eventOf?, empty]
  · cases read : Event.ofLine? (trimReturn text) <;> simp [eventOf?, empty, read]

theorem readLines_of_fit (texts : List String) (fits : ∀ text ∈ texts, text.utf8ByteSize ≤ maxLineBytes) :
    readLines texts = (texts.filterMap eventOf?, none) := by
  induction texts with
  | nil => rfl
  | cons text texts induction =>
    rw [readLines_cons_of_fit text texts (fits text List.mem_cons_self),
      induction fun other member => fits other (List.mem_cons_of_mem text member)]
    cases read : eventOf? text <;> simp [read]

/-- The first line over the limit ends the reading with a fault: the events before it are kept
and every later one is lost. -/
theorem readLines_of_long (fitting : List String) (long : String) (rest : List String)
    (fits : ∀ text ∈ fitting, text.utf8ByteSize ≤ maxLineBytes) (tooLong : maxLineBytes < long.utf8ByteSize) :
    readLines (fitting ++ long :: rest) =
      (fitting.filterMap eventOf?,
        some (.context "error reading journal" (some (.note "bufio.Scanner: token too long")))) := by
  induction fitting with
  | nil => simp [readLines, tooLong]
  | cons text fitting induction =>
    rw [List.cons_append, readLines_cons_of_fit text _ (fits text List.mem_cons_self),
      induction fun other member => fits other (List.mem_cons_of_mem text member)]
    cases read : eventOf? text <;> simp [read]

end Testbed.Journal
