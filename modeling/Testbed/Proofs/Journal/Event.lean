import Testbed.Journal.Event
import Testbed.Proofs.Json.Strings
import Testbed.Proofs.Timestamp

/-!
# Journal lines read back as their events

An event is written as a JSON object of strings, one member per field and `details` left out
when empty. The reader decodes that object into the same fields, so an event whose timestamp
can be written reads back from its line unchanged. The line holds no line feed, since every
string in it is escaped, and ends with the object's closing brace.
-/

namespace Testbed.Journal.Event

def members (event : Event) : List (String × String) :=
  [("timestamp", event.timestamp.render), ("run_id", event.runId), ("test", event.test),
    ("step", event.step), ("outcome", event.outcome)] ++
    (if event.details.isEmpty then [] else [("details", event.details)])

theorem toJson_eq (event : Event) : event.toJson = .object (event.members.map Json.stringMember) := by
  unfold toJson members
  split <;> rfl

theorem read_line (event : Event) :
    Json.read event.line = .ok (.object (event.members.map Json.stringMember)) := by
  rw [line, toJson_eq, Json.read_render_strings]

/-- The written members decode into the event's record, each field holding its value; a left
out `details` keeps its empty default. -/
theorem decode_members (event : Event) (proper : event.timestamp.Proper) :
    Json.decode shape (.object (event.members.map Json.stringMember)) =
      .ok (.object [("timestamp", .string event.timestamp.render), ("run_id", .string event.runId),
        ("test", .string event.test), ("step", .string event.step),
        ("outcome", .string event.outcome), ("details", .string event.details)]) := by
  have stampChecks : (Timestamp.parse? event.timestamp.render).isSome = true := by
    rw [Timestamp.parse_render proper]
    rfl
  by_cases noDetails : event.details = ""
  all_goals
    simp [members, Json.decode, shape, noDetails, Json.decodeInto, Json.decodeMembers,
      Json.matchField, Json.setMember, Json.Shape.zero, Json.Shape.zeroFields,
      Json.Shape.string, Json.stringMember, stampChecks, bind, Except.bind]

theorem ofLine_line {event : Event} (proper : event.timestamp.Proper) :
    ofLine? event.line = some event := by
  simp [ofLine?, read_line, Except.toOption, decode_members event proper, Json.field,
    Json.memberOf, Json.textOr, Timestamp.parse_render proper, Timestamp.render_ne_empty proper]

theorem ofLine_of_not_read {text : String} (notJson : ∀ value, Json.read text ≠ .ok value) :
    ofLine? text = none := by
  unfold ofLine?
  cases found : Json.read text with
  | error => rfl
  | ok value => exact absurd found (notJson value)

theorem lineFeed_not_mem_line (event : Event) : '\n' ∉ event.line.toList := by
  rw [line, toJson_eq]
  exact Json.lineFeed_not_mem_render_strings _

theorem getLast?_line (event : Event) : event.line.toList.getLast? = some '}' := by
  rw [line, toJson_eq]
  simp only [Json.render, String.toList_append]
  rw [List.getLast?_append]
  simp

theorem length_le_utf8ByteSize (text : String) : text.length ≤ text.utf8ByteSize := by
  obtain ⟨chars, rfl⟩ : ∃ chars, text = String.ofList chars := ⟨text.toList, by simp⟩
  induction chars with
  | nil => simp
  | cons c chars induction =>
    have positive := c.utf8Size_pos
    rw [String.ofList_cons, String.length_append, String.utf8ByteSize_append, String.length_singleton,
      String.utf8ByteSize_singleton]
    omega

theorem length_details_le_line (event : Event) : event.details.length ≤ event.line.utf8ByteSize := by
  refine Nat.le_trans ?_ (length_le_utf8ByteSize event.line)
  by_cases empty : event.details.isEmpty
  · rw [show event.details = "" by simpa using empty]
    simp
  · have inMembers : ("details", event.details) ∈ event.members := by simp [members, empty]
    rw [line, toJson_eq]
    exact Json.length_le_render_strings inMembers

end Testbed.Journal.Event
