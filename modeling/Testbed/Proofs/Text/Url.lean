import Mathlib.Tactic.SplitIfs
import Mathlib.Data.Option.Basic
import Testbed.Text.Url

/-!
# Acceptable addresses start with their scheme

An address acceptable as a download location has a scheme, and the reader only finds one as
the run of letters, digits, `+`, `-` and `.` before the first colon. So the address itself,
before lowering, starts with a run without `=` or `#`, then a colon: whatever else it holds,
it never starts with `#` and never begins as `name=`.
-/

namespace Testbed.Url

/-- A scheme the split finds is the run before the first colon, and that run is made of
letters, digits, `+`, `-` and `.`. -/
theorem splitScheme_scan_colon (chars : List Char) :
    ∀ (seen cs : List Char) {scheme rest : List Char},
      splitScheme.scan chars seen cs = .ok (scheme, rest) → scheme ≠ [] →
        ∃ front, cs = front ++ ':' :: rest ∧ '=' ∉ front ∧ '#' ∉ front
  | seen, [], scheme, rest, split, found => by
    simp only [splitScheme.scan, Except.ok.injEq, Prod.mk.injEq] at split
    exact absurd split.1.symm found
  | seen, c :: cs, scheme, rest, split, found => by
    rw [splitScheme.scan] at split
    have unsplit : ∀ {whole : List Char},
        (.ok ([], whole) : Except Unit (List Char × List Char)) ≠ .ok (scheme, rest) :=
      fun same => found (Prod.mk.inj (Except.ok.inj same)).1.symm
    have extend : c ≠ '=' → c ≠ '#' → splitScheme.scan chars (c :: seen) cs = .ok (scheme, rest) →
        ∃ front, c :: cs = front ++ ':' :: rest ∧ '=' ∉ front ∧ '#' ∉ front := by
      intro notEquals notHash later
      obtain ⟨front, rfl, noEquals, noHash⟩ := splitScheme_scan_colon chars _ cs later found
      exact ⟨c :: front, rfl, by simp [Ne.symm notEquals, noEquals], by simp [Ne.symm notHash, noHash]⟩
    split at split
    next letter =>
      exact extend (by rintro rfl; exact absurd letter (by decide))
        (by rintro rfl; exact absurd letter (by decide)) split
    next =>
      split at split
      next mark =>
        split at split
        next => exact absurd split unsplit
        next =>
          exact extend (by rintro rfl; exact absurd mark (by decide))
            (by rintro rfl; exact absurd mark (by decide)) split
      next =>
        split at split
        next colon =>
          split at split
          next => cases split
          next =>
            simp only [Except.ok.injEq, Prod.mk.injEq] at split
            obtain ⟨-, rfl⟩ := split
            exact ⟨[], by simpa using colon, by simp, by simp⟩
        next => exact absurd split unsplit

theorem parse?_scheme {text : String} {url : Url} (parsed : parse? text = some url) :
    ∃ scheme rest, splitScheme (text.toList.takeWhile (· != '#')) = .ok (scheme, rest) ∧
      url.scheme = String.ofList (scheme.map Char.toLower) := by
  simp only [parse?, bind, Option.bind_eq_some_iff] at parsed
  obtain ⟨-, -, ⟨scheme, rest⟩, split, -, -, built⟩ := parsed
  refine ⟨scheme, rest, ?_, ?_⟩
  · cases h : splitScheme (text.toList.takeWhile (· != '#')) <;> simp_all [Except.toOption]
  · split_ifs at built <;> simp only [pure, Option.bind_eq_some_iff, Option.some.injEq] at built
    all_goals grind

theorem parse?_colon {text : String} {url : Url} (parsed : parse? text = some url)
    (schemed : url.scheme ≠ "") :
    ∃ front rest, text.toList = front ++ ':' :: rest ∧ '=' ∉ front ∧ '#' ∉ front := by
  obtain ⟨scheme, rest, split, named⟩ := parse?_scheme parsed
  have found : scheme ≠ [] := by
    rintro rfl
    exact schemed named
  obtain ⟨front, spelled, noEquals, noHash⟩ := splitScheme_scan_colon _ [] _ split found
  refine ⟨front, rest ++ text.toList.dropWhile (· != '#'), ?_, noEquals, noHash⟩
  calc text.toList = text.toList.takeWhile (· != '#') ++ text.toList.dropWhile (· != '#') :=
        List.takeWhile_append_dropWhile.symm
    _ = front ++ ':' :: (rest ++ text.toList.dropWhile (· != '#')) := by rw [spelled]; simp

/-- Lowering a character gives a colon only for a colon: an upper-case letter lowers to a
letter. -/
theorem eq_colon_of_toLower {c : Char} (lowered : c.toLower = ':') : c = ':' := by
  unfold Char.toLower at lowered
  split at lowered
  · case isTrue upper =>
    have values := congrArg (fun d : Char => d.val.toNat) lowered
    simp only [UInt32.toNat_add] at values
    simp only [UInt32.le_iff_toNat_le, ge_iff_le] at upper
    have capitalA : 'A'.val.toNat = 65 := rfl
    have capitalZ : 'Z'.val.toNat = 90 := rfl
    have colon : ':'.val.toNat = 58 := rfl
    have shift : ('a'.val - 'A'.val).toNat = 32 := rfl
    simp only [shift, colon] at values
    omega
  · exact lowered

theorem eq_colon_of_lowerChar {c : Char} (lowered : lowerChar c = ':') : c = ':' := by
  unfold lowerChar at lowered
  split at lowered
  · cases lowered
  · split at lowered
    · cases lowered
    · exact eq_colon_of_toLower lowered

theorem acceptable_colon {text : String} (accepted : acceptable text = true) :
    ∃ front rest, text.toList = front ++ ':' :: rest ∧ '=' ∉ front ∧ '#' ∉ front := by
  simp only [acceptable, Bool.and_eq_true] at accepted
  obtain ⟨-, parsed⟩ := accepted
  split at parsed
  · cases parsed
  · case h_2 url parses =>
    have schemed : url.scheme ≠ "" := by
      rintro empty
      simp [empty] at parsed
    obtain ⟨front, rest, spelled, noEquals, noHash⟩ := parse?_colon parses schemed
    rw [String.toList_ofList] at spelled
    obtain ⟨original, tail, spelledText, rfl, lowTail⟩ := List.map_eq_append_iff.1 spelled
    obtain ⟨c, rest', rfl, colon, -⟩ := List.map_eq_cons_iff.1 lowTail
    rw [eq_colon_of_lowerChar colon] at spelledText
    refine ⟨original, rest', spelledText, fun member => noEquals ?_, fun member => noHash ?_⟩
    · exact List.mem_map.2 ⟨'=', member, by decide⟩
    · exact List.mem_map.2 ⟨'#', member, by decide⟩

end Testbed.Url
