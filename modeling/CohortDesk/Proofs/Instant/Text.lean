import CohortDesk.Instant.Printer
import CohortDesk.Instant.Reader
import CohortDesk.Proofs.Text.Decimal

/-!
# Written instants read back

The text of an instant is read as that instant: years with and without sign, leap seconds, and
fractions of any of the written lengths.
-/

namespace CohortDesk.Instant

set_option autoImplicit false

open Text

section Numbers

variable {most value : Nat}

theorem number?_padded (positive : 0 < most) (small : value < 10 ^ most) (rest : List Char) :
    number? most (padded most value ++ rest) = some (value, rest) := by
  have length := length_padded positive small
  rw [number?, trim_start_of_stops_before (padded_stops_before_blank most value rest)]
  exact leading_number?_padded (Nat.le_of_eq length) (.inl length)

theorem marked_number?_padded {mark : Char} (visible : isBlank mark = false)
    (positive : 0 < most) (small : value < 10 ^ most) (rest : List Char) :
    markedNumber? mark most (mark :: (padded most value ++ rest)) = some (value, rest) := by
  rw [markedNumber?, trim_start_of_stops_before (stops_before_cons visible _)]
  simp only [expect?, if_true, Option.bind_eq_bind, Option.bind_some]
  exact number?_padded positive small rest

end Numbers

section Dates

theorem year?_of_is_digit {c : Char} (digit : c.isDigit = true) (rest : List Char) :
    year? (c :: rest) =
      (leadingNumber? 4 (c :: rest)).map fun (size, after) => (Int.ofNat size, after) := by
  rw [year?, trim_start_of_stops_before (stops_before_cons (is_blank_of_is_digit digit) rest)]
  split
  · rename_i same
    rw [(List.cons.inj same).1] at digit
    exact absurd digit (by decide)
  · rename_i same
    rw [(List.cons.inj same).1] at digit
    exact absurd digit (by decide)
  · rfl

theorem leading_number?_signed (value : Nat) {rest : List Char}
    (stops : StopsBefore Char.isDigit rest) :
    leadingNumber? (padded 4 value ++ rest).length (padded 4 value ++ rest) =
      some (value, rest) := by
  apply leading_number?_padded _ (.inr stops)
  rw [List.length_append]
  exact Nat.le_add_right _ _

theorem year?_year_text (year : Int) {rest : List Char} (stops : StopsBefore Char.isDigit rest) :
    year? (Calendar.yearText year ++ rest) = some (year, rest) := by
  unfold Calendar.yearText
  split
  · rename_i plain
    have value : Int.ofNat year.natAbs = year := Int.natAbs_of_nonneg plain.1
    have length : (padded 4 year.natAbs).length = 4 := length_padded (by decide) (by omega)
    have read : leadingNumber? 4 (padded 4 year.natAbs ++ rest) = some (year.natAbs, rest) :=
      leading_number?_padded (Nat.le_of_eq length) (.inl length)
    obtain ⟨c, others, written, digit⟩ :=
      head_is_digit (padded_ne_nil 4 year.natAbs) (all_is_digit_padded 4 year.natAbs)
    rw [written, List.cons_append] at read ⊢
    rw [year?_of_is_digit digit, read]
    simp only [Option.map_some, value]
  · split
    · rename_i negative
      have value : -Int.ofNat year.natAbs = year := by
        rw [Int.ofNat_eq_natCast]
        omega
      rw [List.cons_append, year?, trim_start_of_stops_before (stops_before_cons (by decide) _)]
      simp only [leading_number?_signed _ stops, Option.map_some, value]
    · rename_i positive
      have value : Int.ofNat year.natAbs = year := Int.natAbs_of_nonneg (Int.not_lt.1 positive)
      rw [List.cons_append, year?, trim_start_of_stops_before (stops_before_cons (by decide) _)]
      simp only [leading_number?_signed _ stops, Option.map_some, value]

theorem month_length_le (year : Int) (month : Nat) : Calendar.monthLength year month ≤ 31 := by
  unfold Calendar.monthLength
  split
  · split <;> decide
  · split <;> decide

theorem date?_text (date : Date) (rest : List Char) :
    date? (date.text ++ rest) = some (date, rest) := by
  obtain ⟨_, _, _, month, _, day⟩ := date.valid
  have short := month_length_le date.year date.month
  have dash : isBlank '-' = false := by decide
  have stops : ∀ rest, StopsBefore Char.isDigit ('-' :: rest) := stops_before_cons (by decide)
  simp only [date?, Date.text, List.append_assoc, List.cons_append, year?_year_text _ (stops _),
    marked_number?_padded dash (show 0 < 2 by decide) (show date.month < 10 ^ 2 by omega),
    marked_number?_padded dash (show 0 < 2 by decide) (show date.day < 10 ^ 2 by omega),
    Option.bind_eq_bind, Option.bind_some, Date.of?_eq, Option.pure_def]

end Dates

section Times

theorem fraction?_padded {width value nanos : Nat} (positive : 0 < width) (short : width ≤ 9)
    (small : value < 10 ^ width) (scaled : value * 10 ^ (9 - width) = nanos) {rest : List Char}
    (stops : StopsBefore Char.isDigit rest) :
    fraction? ('.' :: padded width value ++ rest) = some (nanos, rest) := by
  have length := length_padded positive small
  have fits : (padded width value).length ≤ 9 := by rwa [length]
  have dropped : rest.dropWhile Char.isDigit = rest := by
    cases rest with
    | nil => rfl
    | cons c tail => rw [List.dropWhile_cons_of_neg (by simp [stops c rfl])]
  have found := leading_digits?_append (padded_ne_nil width value)
    (all_is_digit_padded width value) fits (.inr stops)
  simp only [List.cons_append, fraction?, found, Option.bind_eq_bind, Option.bind_some,
    ofDigitChars_padded, length, dropped, Option.pure_def, Nat.pow_eq, scaled]

theorem fraction?_fraction_text (time : TimeOfDay) (rest : List Char) :
    fraction? (time.fractionText ++ 'Z' :: rest) = some (time.fraction, 'Z' :: rest) := by
  have small : time.fraction < 1000000000 := Nat.mod_lt _ (by decide)
  have stops : StopsBefore Char.isDigit ('Z' :: rest) := stops_before_cons (by decide) _
  simp only [TimeOfDay.fractionText]
  split
  · rename_i zero
    rw [zero]
    rfl
  · split
    · exact fraction?_padded (by decide) (by decide) (by omega) (by omega) stops
    · split
      · exact fraction?_padded (by decide) (by decide) (by omega) (by omega) stops
      · exact fraction?_padded (by decide) (by decide) (by omega) (by omega) stops

/-- What is shown of a leap second is read as that leap second. -/
theorem of?_shown (time : TimeOfDay) :
    TimeOfDay.of? time.hour time.minute time.shownSecond time.fraction = some time := by
  obtain ⟨hour, minute, second, nanos, valid⟩ := time
  by_cases leap : nanosPerSecond ≤ nanos
  · have last : second = 59 := by omega
    have carried : nanosPerSecond + nanos % nanosPerSecond = nanos := by
      simp only [nanosPerSecond] at *
      omega
    subst last
    have inside : nanos < nanosPerSecond ∨ nanos < 2 * nanosPerSecond := by omega
    simp [TimeOfDay.of?, TimeOfDay.shownSecond, TimeOfDay.inLeapSecond, TimeOfDay.fraction, leap,
      carried, valid, inside]
  · have below : nanos % nanosPerSecond = nanos := Nat.mod_eq_of_lt (Nat.lt_of_not_le leap)
    have shown : second ≠ 60 := by omega
    simp [TimeOfDay.of?, TimeOfDay.shownSecond, TimeOfDay.inLeapSecond, TimeOfDay.fraction, leap,
      below, shown, valid]

theorem shown_second_le (time : TimeOfDay) : time.shownSecond ≤ 60 := by
  have valid := time.valid
  unfold TimeOfDay.shownSecond
  split <;> omega

theorem time?_text (time : TimeOfDay) (rest : List Char) :
    time? (time.text ++ 'Z' :: rest) = some (time, 'Z' :: rest) := by
  have valid := time.valid
  have shown := shown_second_le time
  have colon : isBlank ':' = false := by decide
  simp only [time?, TimeOfDay.text, TimeOfDay.minuteText, List.append_assoc, List.cons_append,
    number?_padded (show 0 < 2 by decide) (show time.hour < 10 ^ 2 by omega),
    marked_number?_padded colon (show 0 < 2 by decide) (show time.minute < 10 ^ 2 by omega),
    marked_number?_padded colon (show 0 < 2 by decide) (show time.shownSecond < 10 ^ 2 by omega),
    fraction?_fraction_text, of?_shown, Option.bind_eq_bind, Option.bind_some, Option.pure_def]

end Times

theorem of_local?_zero (date : Date) (time : TimeOfDay) :
    ofLocal? date time 0 = some ⟨date, time⟩ := by
  have valid := time.valid
  have same : time.atMinute (time.hour * 60 + time.minute) = time := by
    have hour : (time.hour * 60 + time.minute) / 60 % 24 = time.hour := by omega
    have minute : (time.hour * 60 + time.minute) % 60 = time.minute := by omega
    simp only [TimeOfDay.atMinute, hour, minute]
  have kept : ((time.hour * 60 + time.minute : Nat) % (minutesPerDay : Int)).toNat =
      time.hour * 60 + time.minute := by
    simp only [minutesPerDay]
    omega
  have late : ¬(minutesPerDay : Int) ≤ (time.hour * 60 + time.minute : Nat) := by
    simp only [minutesPerDay]
    omega
  simp only [ofLocal?, Int.sub_zero, kept, same, if_neg late]
  rw [if_neg (by omega)]

/-- The written form of an instant is read as that instant. -/
theorem read?_text (instant : Instant) : read? instant.text = some instant := by
  simp only [read?, text, List.append_assoc, List.cons_append, date?_text, separator?, true_or,
    if_true, time?_text, Option.bind_eq_bind, Option.bind_some]
  exact of_local?_zero instant.date instant.time

end CohortDesk.Instant
