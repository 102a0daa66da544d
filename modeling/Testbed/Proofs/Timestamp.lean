import Mathlib.Data.Option.Basic
import Testbed.Timestamp

/-!
# Timestamps read back as written

A reading whose fields are in range, whose year has four digits and whose offset is a whole
number of minutes below a day is written by `render` in exactly the form `parse?` accepts, and
reads back unchanged: each field is a run of decimal digits padded to its width, the fraction
loses only trailing zeros, which carry no value, and the offset is written in hours and minutes.
-/

namespace Testbed.Timestamp

/-- A reading that RFC 3339 writes and reads back: every field in its range, a year of four
digits, and an offset that is a whole number of minutes less than a day. -/
structure Proper (t : Timestamp) : Prop where
  year_nonneg : 0 ≤ t.year
  year_le : t.year ≤ 9999
  month_pos : 1 ≤ t.month
  month_le : t.month ≤ 12
  day_pos : 1 ≤ t.day
  day_le : t.day ≤ daysIn t.month t.year
  hour_lt : t.hour < 24
  minute_lt : t.minute < 60
  second_lt : t.second < 60
  nanos_lt : t.nanos < 1000000000
  offset_minutes : t.offset % 60 = 0
  offset_lt : t.offset.natAbs < 86400

instance (t : Timestamp) : Decidable (Proper t) :=
  decidable_of_iff (0 ≤ t.year ∧ t.year ≤ 9999 ∧ 1 ≤ t.month ∧ t.month ≤ 12 ∧ 1 ≤ t.day ∧
      t.day ≤ daysIn t.month t.year ∧ t.hour < 24 ∧ t.minute < 60 ∧ t.second < 60 ∧
      t.nanos < 1000000000 ∧ t.offset % 60 = 0 ∧ t.offset.natAbs < 86400)
    ⟨fun ⟨a, b, c, d, e, f, g, h, i, j, k, l⟩ => ⟨a, b, c, d, e, f, g, h, i, j, k, l⟩,
      fun ⟨a, b, c, d, e, f, g, h, i, j, k, l⟩ => ⟨a, b, c, d, e, f, g, h, i, j, k, l⟩⟩

example : Proper ⟨2024, 2, 29, 23, 59, 59, 999999999, -18000⟩ := by decide

/-! ## Decimal digits -/

theorem foldl_digits (chars : List Char) (init : Nat) :
    chars.foldl (fun v c => v * 10 + (c.toNat - '0'.toNat)) init = Nat.ofDigitChars 10 chars init := by
  rw [Nat.ofDigitChars_eq_foldl]
  congr
  funext v c
  rw [Nat.mul_comm]

theorem toList_padded (width value : Nat) :
    (padded width value).toList =
      List.replicate (width - (Nat.toDigits 10 value).length) '0' ++ Nat.toDigits 10 value := by
  simp [padded, ← String.length_toList, Nat.toList_repr]

theorem isDigit_of_mem_padded {width value : Nat} {c : Char} (member : c ∈ (padded width value).toList) :
    c.isDigit := by
  rw [toList_padded] at member
  rcases List.mem_append.1 member with zero | digit
  · rw [List.eq_of_mem_replicate zero]
    rfl
  · exact Nat.isDigit_of_mem_toDigits (by decide) (by decide) digit

theorem length_padded {width value : Nat} (positive : 0 < width) (fits : value < Nat.pow 10 width) :
    (padded width value).toList.length = width := by
  have short : (Nat.toDigits 10 value).length ≤ width :=
    (Nat.length_toDigits_le_iff (by decide) positive).2 fits
  rw [toList_padded, List.length_append, List.length_replicate]
  omega

theorem ofDigitChars_padded (width value : Nat) :
    Nat.ofDigitChars 10 (padded width value).toList 0 = value := by
  rw [toList_padded, Nat.ofDigitChars_append, Nat.ofDigitChars_replicate_zero, Nat.mul_zero,
    Nat.ofDigitChars_ten_toDigits]

theorem digitsValue_padded (width value : Nat) :
    digitsValue (padded width value).toList = some value := by
  have allDigits : (padded width value).toList.all Char.isDigit = true :=
    List.all_eq_true.2 fun _ member => isDigit_of_mem_padded member
  rw [digitsValue, if_pos allDigits, foldl_digits, ofDigitChars_padded]

theorem field_padded {width low high value : Nat} (positive : 0 < width)
    (fits : value < Nat.pow 10 width) (above : low ≤ value) (below : value ≤ high)
    (rest : List Char) :
    field width low high ((padded width value).toList ++ rest) = some (value, rest) := by
  have length := length_padded positive fits
  have front : ((padded width value).toList ++ rest).take width = (padded width value).toList := by
    rw [List.take_append_of_le_length (by omega), List.take_of_length_le (by omega)]
  have back : ((padded width value).toList ++ rest).drop width = rest := by
    rw [List.drop_append_of_le_length (by omega), List.drop_of_length_le (by omega), List.nil_append]
  simp [field, front, back, digitsValue_padded, length, above, below, guard]

/-! ## The fraction of a second -/

theorem trimmed_append_zeros (digits : List Char) :
    (digits.reverse.dropWhile (· == '0')).reverse ++
      List.replicate (digits.reverse.takeWhile (· == '0')).length '0' = digits := by
  have zeros : digits.reverse.takeWhile (· == '0') =
      List.replicate (digits.reverse.takeWhile (· == '0')).length '0' :=
    List.eq_replicate_iff.2 ⟨rfl, fun c member => by
      simpa using List.all_eq_true.1 List.all_takeWhile c member⟩
  have split : digits.reverse.takeWhile (· == '0') ++ digits.reverse.dropWhile (· == '0') =
      digits.reverse := List.takeWhile_append_dropWhile
  calc (digits.reverse.dropWhile (· == '0')).reverse ++
        List.replicate (digits.reverse.takeWhile (· == '0')).length '0'
      = (digits.reverse.dropWhile (· == '0')).reverse ++
          (digits.reverse.takeWhile (· == '0')).reverse := by
        rw [zeros, List.reverse_replicate, List.length_replicate]
    _ = (digits.reverse.takeWhile (· == '0') ++ digits.reverse.dropWhile (· == '0')).reverse := by
        rw [List.reverse_append]
    _ = digits := by rw [split, List.reverse_reverse]

def fractionDigits (nanos : Nat) : List Char :=
  ((padded 9 nanos).toList.reverse.dropWhile (· == '0')).reverse

theorem toList_fractionText {nanos : Nat} (positive : 0 < nanos) :
    (fractionText nanos).toList = '.' :: fractionDigits nanos := by
  have nonzero : (nanos == 0) = false := by simp; omega
  simp [fractionText, nonzero, fractionDigits]

/-- The written digits of a fraction, with as many zeros after them as were dropped, read as
the nanoseconds. -/
theorem fractionDigits_value (nanos : Nat) :
    Nat.ofDigitChars 10 (fractionDigits nanos) 0 *
        Nat.pow 10 ((padded 9 nanos).toList.reverse.takeWhile (· == '0')).length = nanos := by
  have whole := ofDigitChars_padded 9 nanos
  rw [← trimmed_append_zeros (padded 9 nanos).toList, Nat.ofDigitChars_append,
    Nat.ofDigitChars_replicate_zero] at whole
  rw [fractionDigits, Nat.pow_eq, Nat.mul_comm]
  exact whole

theorem isDigit_of_mem_fractionDigits {nanos : Nat} {c : Char}
    (member : c ∈ fractionDigits nanos) : c.isDigit := by
  have inPadded : c ∈ (padded 9 nanos).toList := by
    rw [← trimmed_append_zeros (padded 9 nanos).toList]
    exact List.mem_append_left _ member
  exact isDigit_of_mem_padded inPadded

theorem fractionNanos_fractionDigits {nanos : Nat} (small : nanos < 1000000000) :
    fractionNanos (fractionDigits nanos) = nanos := by
  have lengths := congrArg List.length (trimmed_append_zeros (padded 9 nanos).toList)
  rw [List.length_append, List.length_replicate, length_padded (by decide) small] at lengths
  have short : (fractionDigits nanos).length ≤ 9 := by
    simp only [fractionDigits]
    omega
  have allDigits : (fractionDigits nanos).all Char.isDigit = true :=
    List.all_eq_true.2 fun _ member => isDigit_of_mem_fractionDigits member
  have dropped : 9 - (fractionDigits nanos).length =
      ((padded 9 nanos).toList.reverse.takeWhile (· == '0')).length := by
    simp only [fractionDigits]
    omega
  rw [fractionNanos, List.take_of_length_le short, digitsValue, if_pos allDigits, foldl_digits,
    Option.getD_some, dropped, fractionDigits_value]

theorem fractionDigits_ne_nil {nanos : Nat} (positive : 0 < nanos) : fractionDigits nanos ≠ [] := by
  intro empty
  have value := fractionDigits_value nanos
  rw [empty, Nat.ofDigitChars_nil, Nat.zero_mul] at value
  omega

/-- A written fraction is read back, and reading stops at what follows it, which is neither a
digit nor a point. -/
theorem fraction_fractionText {nanos : Nat} (small : nanos < 1000000000) (tail : List Char)
    (tailStart : ∀ c ∈ tail.head?, c.isDigit = false ∧ c ≠ '.') :
    fraction ((fractionText nanos).toList ++ tail) = (nanos, tail) := by
  by_cases zero : nanos = 0
  · subst zero
    rw [show (fractionText 0).toList = [] from rfl, List.nil_append]
    unfold fraction
    split
    case h_1 d more => exact absurd rfl (tailStart '.' rfl).2
    case h_2 => rfl
  · obtain ⟨first, more, digits⟩ : ∃ first more, fractionDigits nanos = first :: more :=
      List.exists_cons_of_ne_nil (fractionDigits_ne_nil (by omega))
    have firstDigit : first.isDigit = true :=
      isDigit_of_mem_fractionDigits (by rw [digits]; exact List.mem_cons_self)
    have moreDigits : ∀ c ∈ more, c.isDigit = true := fun c member =>
      isDigit_of_mem_fractionDigits (by rw [digits]; exact List.mem_cons_of_mem first member)
    have tailTaken : tail.takeWhile Char.isDigit = [] := by
      cases tail with
      | nil => rfl
      | cons c rest => simp [(tailStart c rfl).1]
    have tailKept : tail.dropWhile Char.isDigit = tail := by
      cases tail with
      | nil => rfl
      | cons c rest => simp [(tailStart c rfl).1]
    rw [toList_fractionText (by omega), digits, List.cons_append, List.cons_append]
    simp only [fraction, firstDigit, ↓reduceIte, List.takeWhile_append_of_pos moreDigits, tailTaken,
      List.append_nil, List.dropWhile_append_of_pos moreDigits, tailKept]
    rw [← digits, fractionNanos_fractionDigits small]

/-! ## The offset -/

private theorem exists_pair_of_length_eq_two {l : List Char} (two : l.length = 2) :
    ∃ a b, l = [a, b] := by
  match l, two with
  | [a, b], _ => exact ⟨a, b, rfl⟩

theorem zone_offsetText {offset : Int} (wholeMinutes : offset % 60 = 0)
    (small : offset.natAbs < 86400) : zone (offsetText offset).toList = some offset := by
  by_cases zero : offset = 0
  · subst zero
    rfl
  · have nonzero : (offset == 0) = false := by simpa using zero
    have hoursFit : offset.natAbs / 60 / 60 < Nat.pow 10 2 := by
      show _ < 100
      omega
    have minutesFit : offset.natAbs / 60 % 60 < Nat.pow 10 2 := by
      show _ < 100
      omega
    obtain ⟨h1, h2, hours⟩ := exists_pair_of_length_eq_two (length_padded (by decide) hoursFit)
    obtain ⟨m1, m2, minutes⟩ := exists_pair_of_length_eq_two (length_padded (by decide) minutesFit)
    have hoursRead : field 2 0 23 [h1, h2] = some (offset.natAbs / 60 / 60, []) := by
      have read : field 2 0 23 ((padded 2 (offset.natAbs / 60 / 60)).toList ++ []) =
          some (offset.natAbs / 60 / 60, []) :=
        field_padded (by decide) hoursFit (Nat.zero_le _) (by omega) []
      rwa [hours] at read
    have minutesRead : field 2 0 59 [m1, m2] = some (offset.natAbs / 60 % 60, []) := by
      have read : field 2 0 59 ((padded 2 (offset.natAbs / 60 % 60)).toList ++ []) =
          some (offset.natAbs / 60 % 60, []) :=
        field_padded (by decide) minutesFit (Nat.zero_le _) (by omega) []
      rwa [minutes] at read
    have magnitude : (((offset.natAbs / 60 / 60 * 60 + offset.natAbs / 60 % 60) * 60 : Nat) : Int) =
        offset.natAbs := by
      have : offset.natAbs % 60 = 0 := by omega
      omega
    -- the casts are pushed by core lemmas only, so that the goal keeps `natAbs` for `omega`
    by_cases negative : offset < 0
    · simp only [zone, offsetText, nonzero, Bool.false_eq_true, ↓reduceIte, negative, String.toList_append,
        String.reduceToList, hours, List.cons_append, ↓Char.isValue, List.nil_append, minutes, guard,
        Char.reduceBEq, BEq.rfl, Bool.or_true, Option.pure_def, hoursRead, minutesRead, Option.bind_eq_bind,
        Option.bind_some, Int.natCast_emod, Int.natCast_ediv, Int.cast_ofNat_Int, Option.some.injEq]
      omega
    · simp only [zone, offsetText, nonzero, Bool.false_eq_true, ↓reduceIte, negative, String.toList_append,
        String.reduceToList, hours, List.cons_append, ↓Char.isValue, List.nil_append, minutes, guard, BEq.rfl,
        Char.reduceBEq, Bool.or_false, Option.pure_def, hoursRead, minutesRead, Option.bind_eq_bind,
        Option.bind_some, Int.natCast_emod, Int.natCast_ediv, Int.cast_ofNat_Int, Option.some.injEq]
      omega

theorem offsetText_start (offset : Int) :
    ∀ c ∈ (offsetText offset).toList.head?, c.isDigit = false ∧ c ≠ '.' := by
  intro c first
  unfold offsetText at first
  by_cases zero : offset = 0
  · simp [zero] at first
    subst first
    exact ⟨rfl, by decide⟩
  · by_cases negative : offset < 0
    · simp [zero, negative] at first
      subst first
      exact ⟨rfl, by decide⟩
    · simp [zero, negative] at first
      subst first
      exact ⟨rfl, by decide⟩

theorem daysIn_le (month : Nat) (year : Int) : daysIn month year ≤ 31 := by
  unfold daysIn
  split
  · split <;> decide
  all_goals decide

/-! ## Whole timestamps -/

theorem toList_render {t : Timestamp} (nonneg : 0 ≤ t.year) :
    (render t).toList = (padded 4 t.year.natAbs).toList ++ '-' :: ((padded 2 t.month).toList ++
      '-' :: ((padded 2 t.day).toList ++ 'T' :: ((padded 2 t.hour).toList ++ ':' ::
      ((padded 2 t.minute).toList ++ ':' :: ((padded 2 t.second).toList ++
      ((fractionText t.nanos).toList ++ (offsetText t.offset).toList)))))) := by
  have fourDigits : yearText t.year = padded 4 t.year.natAbs := by
    simp [yearText, Int.not_lt.2 nonneg]
  have dash : "-".toList = ['-'] := rfl
  have letterT : "T".toList = ['T'] := rfl
  have colon : ":".toList = [':'] := rfl
  simp only [render, fourDigits, String.toList_append, List.append_assoc, dash, letterT, colon,
    List.cons_append, List.nil_append]

theorem parse_render {t : Timestamp} (proper : Proper t) : parse? (render t) = some t := by
  have yearFits : t.year.natAbs < Nat.pow 10 4 := by
    show _ < 10000
    have := proper.year_le
    have := proper.year_nonneg
    omega
  have twoDigits : ∀ {n : Nat}, n < 60 → n < Nat.pow 10 2 := fun below => by
    show _ < 100
    omega
  have dayBelow : t.day ≤ 31 := Nat.le_trans proper.day_le (daysIn_le _ _)
  have yearBack : ((t.year.natAbs : Nat) : Int) = t.year := Int.natAbs_of_nonneg proper.year_nonneg
  have yearRead := field_padded (by decide : 0 < 4) yearFits (Nat.zero_le _)
    (show t.year.natAbs ≤ 9999 by have := proper.year_le; have := proper.year_nonneg; omega)
  have monthRead := field_padded (by decide : 0 < 2) (twoDigits (by have := proper.month_le; omega))
    proper.month_pos proper.month_le
  have dayRead := field_padded (by decide : 0 < 2) (twoDigits (by omega)) proper.day_pos dayBelow
  have hourRead := field_padded (by decide : 0 < 2) (twoDigits (by have := proper.hour_lt; omega))
    (Nat.zero_le _) (show t.hour ≤ 23 by have := proper.hour_lt; omega)
  have minuteRead := field_padded (by decide : 0 < 2) (twoDigits proper.minute_lt) (Nat.zero_le _)
    (show t.minute ≤ 59 by have := proper.minute_lt; omega)
  have secondRead := field_padded (by decide : 0 < 2) (twoDigits proper.second_lt) (Nat.zero_le _)
    (show t.second ≤ 59 by have := proper.second_lt; omega)
  have fractionRead := fraction_fractionText proper.nanos_lt _ (offsetText_start t.offset)
  have zoneRead := zone_offsetText proper.offset_minutes proper.offset_lt
  simp [parse?, toList_render proper.year_nonneg, yearRead, monthRead, dayRead, hourRead,
    minuteRead, secondRead, fractionRead, zoneRead, expect, guard, yearBack, proper.day_le]

theorem unwritable_eq_none {t : Timestamp} (proper : Proper t) : t.unwritable? = none := by
  have := proper.year_nonneg
  have := proper.year_le
  have := proper.offset_lt
  simp only [unwritable?, Bool.or_eq_true, decide_eq_true_eq]
  rw [if_neg (by omega), if_neg (by omega)]

theorem render_ne_empty {t : Timestamp} (proper : Proper t) : render t ≠ "" := by
  intro empty
  have chars := congrArg String.toList empty
  rw [toList_render proper.year_nonneg] at chars
  simp at chars

end Testbed.Timestamp
