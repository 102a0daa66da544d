import Mathlib
import Testbed.Validation

/-!
# What validation accepts

Container names and field rules, said without the validator. A container name is what the
pattern `^[a-zA-Z0-9][a-zA-Z0-9_.-]*$` matches as a whole: an ASCII letter or digit, then ASCII
letters, digits, underscores, periods and hyphens, so never empty and never ending in a line
feed. A record passes validation exactly when each field keeps all its rules and, for a list,
each element keeps the rules of its elements.
-/

namespace Testbed

def AsciiAlnum (c : Char) : Prop :=
  ('a' ≤ c ∧ c ≤ 'z') ∨ ('A' ≤ c ∧ c ≤ 'Z') ∨ ('0' ≤ c ∧ c ≤ '9')

def ContainerNamed (name : String) : Prop :=
  ∃ first rest, name.toList = first :: rest ∧ AsciiAlnum first ∧
    ∀ c ∈ rest, AsciiAlnum c ∨ c = '_' ∨ c = '.' ∨ c = '-'

theorem ContainerNamed.ne_empty {name : String} (named : ContainerNamed name) : name ≠ "" := by
  rintro rfl
  obtain ⟨_, _, spelled, -⟩ := named
  simp at spelled

theorem isAlphanum_ascii_iff (c : Char) :
    (c.isAlphanum && c.toNat < 0x80) = true ↔ AsciiAlnum c := by
  simp [Char.isAlphanum, Char.isAlpha, Char.isUpper, Char.isLower, Char.isDigit, AsciiAlnum,
    Char.le_def, UInt32.le_iff_toNat_le, ← Char.toNat_val]
  omega

theorem containerNameChar_iff (c : Char) :
    containerNameChar c = true ↔ AsciiAlnum c ∨ c = '_' ∨ c = '.' ∨ c = '-' := by
  rw [← isAlphanum_ascii_iff]
  simp [containerNameChar, or_assoc]

theorem isContainerName_iff (name : String) :
    isContainerName name = true ↔ ContainerNamed name := by
  unfold isContainerName ContainerNamed
  cases spelled : name.toList with
  | nil => simp
  | cons first rest =>
    rw [Bool.and_eq_true, isAlphanum_ascii_iff, List.all_eq_true]
    simp only [containerNameChar_iff, List.cons.injEq]
    constructor
    · rintro ⟨leading, following⟩
      exact ⟨first, rest, ⟨rfl, rfl⟩, leading, following⟩
    · rintro ⟨_, _, ⟨rfl, rfl⟩, leading, following⟩
      exact ⟨leading, following⟩

theorem validateTestName_eq_ok_iff (name : String) :
    validateTestName name = .ok () ↔ ContainerNamed name := by
  rw [← isContainerName_iff]
  unfold validateTestName
  by_cases empty : name.isEmpty
  · have : name = "" := by simpa using empty
    subst this
    simp [isContainerName]
  · by_cases named : isContainerName name <;> simp [empty, named]

namespace Validation

theorem firstBroken_eq_none_iff (name : String) (value : Value) (rules : List Rule) :
    firstBroken name value rules = none ↔ ∀ rule ∈ rules, rule.holds value = true := by
  simp [firstBroken]

/-- Every element of a list holds a property exactly when every pair of an index and an
element does. -/
theorem forall_mem_zip_range {α : Type} (values : List α) (holds : α → Prop) :
    (∀ pair ∈ (List.range values.length).zip values, holds pair.2) ↔
      ∀ value ∈ values, holds value := by
  have seconds : ((List.range values.length).zip values).map Prod.snd = values :=
    List.map_snd_zip (by simp)
  constructor
  · intro all value member
    rw [← seconds] at member
    obtain ⟨pair, inZip, rfl⟩ := List.mem_map.1 member
    exact all pair inZip
  · intro all pair inZip
    exact all pair.2 (seconds ▸ List.mem_map_of_mem inZip)

/-- A field has no message when it keeps its rules and, for a list, each element keeps the rules
of elements. -/
theorem Field.messages_eq_nil_iff (field : Field) :
    field.messages = [] ↔ (∀ rule ∈ field.rules, rule.holds field.value = true) ∧
      ∀ values, field.value = .items values → ∀ element ∈ values,
        ∀ rule ∈ field.elementRules, rule.holds (.text element) = true := by
  obtain ⟨name, value, rules, elementRules⟩ := field
  unfold Field.messages
  cases broken : firstBroken name value rules with
  | some message =>
    have breaks : ¬ ∀ rule ∈ rules, rule.holds value = true := fun holds => by
      simp [(firstBroken_eq_none_iff name value rules).2 holds] at broken
    simp [breaks]
  | none =>
    have holds := (firstBroken_eq_none_iff name value rules).1 broken
    cases value with
    | items values =>
      simp only [List.filterMap_eq_nil_iff, firstBroken_eq_none_iff]
      rw [forall_mem_zip_range values fun element =>
        ∀ rule ∈ elementRules, rule.holds (.text element) = true]
      simpa using fun _ => holds
    | text => exact ⟨fun _ => ⟨holds, fun _ wrong => by cases wrong⟩, fun _ => rfl⟩
    | number => exact ⟨fun _ => ⟨holds, fun _ wrong => by cases wrong⟩, fun _ => rfl⟩

theorem verdict_eq_ok_iff (fields : List Field) :
    verdict fields = .ok () ↔ ∀ field ∈ fields, field.messages = [] := by
  rw [← List.flatMap_eq_nil_iff]
  unfold verdict
  split <;> simp_all

end Validation

theorem Config.defaults_validate : Config.defaults.validate = .ok () := by
  rw [Config.validate, Validation.verdict_eq_ok_iff]
  decide +kernel

end Testbed
