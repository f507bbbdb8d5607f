/-
**An instant is read back from its text.**

* `readDigits_append`: digits are read up to what is none, and give their number;
* `padded_*`: a number that fits its width is written in as many digits and read back from them;
* `readYear?_writeYear`, `readFraction?_writeFraction`: so are a year, with or without a sign, and the
  decimals of a second, with all decimals that it needs;
* `parse?_write`: the text of an instant is read as the instant, leap seconds and years before the
  first included.
-/

import CrashReporter.Instant.Text
import CrashReporter.Proofs.Decode.Field
import Mathlib.Tactic.Common
import Mathlib.Tactic.IntervalCases

namespace CrashReporter.Instant

open CrashReporter.Text (isBlank trimStart)

/-! ### Digits -/

/-- What follows does not go on with a digit. -/
def StopsDigits (rest : List Char) : Prop :=
  ∀ character ∈ rest.head?, character.isDigit = false

/-- Digits are read up to what is none, and give their number. -/
theorem readDigits_append {digits rest : List Char} (all : ∀ digit ∈ digits, digit.isDigit = true)
    (stops : StopsDigits rest) {most : Nat} (fit : digits.length ≤ most) (value : Nat) :
    readDigits most value (digits ++ rest) =
      (Nat.ofDigitChars 10 digits value, digits.length, rest) := by
  induction digits generalizing most value with
  | nil =>
    cases rest with
    | nil => cases most <;> rfl
    | cons character rest =>
      cases most with
      | zero => rfl
      | succ most =>
        rw [List.nil_append, readDigits, if_neg (by simp [stops character rfl])]
        rfl
  | cons digit digits ih =>
    obtain ⟨fewer, rfl⟩ := Nat.exists_eq_add_one.mpr (Nat.zero_lt_of_lt fit)
    have others := ih (fun other member => all other (List.mem_cons_of_mem _ member))
      (Nat.le_of_succ_le_succ fit) (value * 10 + (digit.toNat - '0'.toNat))
    rw [List.cons_append, readDigits, if_pos (all digit List.mem_cons_self), others,
      Nat.ofDigitChars_cons, Nat.mul_comm 10 value]
    rfl

theorem stopsDigits_cons {character : Char} (other : character.isDigit = false) (rest : List Char) :
    StopsDigits (character :: rest) := by
  intro first begins
  cases begins
  exact other

theorem isDigit_of_mem_padded {width value : Nat} {character : Char}
    (member : character ∈ padded width value) : character.isDigit = true := by
  rcases List.mem_append.mp member with zero | digit
  · rw [List.eq_of_mem_replicate zero]
    rfl
  · exact Nat.isDigit_of_mem_toDigits (by decide) (by decide) digit

theorem ofDigitChars_padded (width value : Nat) :
    Nat.ofDigitChars 10 (padded width value) 0 = value := by
  unfold padded
  rw [Nat.ofDigitChars_append, Nat.ofDigitChars_replicate_zero, Nat.mul_zero,
    Nat.ofDigitChars_ten_toDigits]

theorem length_padded {width value : Nat} (positive : 0 < width) (fits : value < 10 ^ width) :
    (padded width value).length = width := by
  have few := (Nat.length_toDigits_le_iff (by decide) positive).mpr fits
  unfold padded
  rw [List.length_append, List.length_replicate]
  omega

theorem padded_eq_cons (width value : Nat) :
    ∃ first more, padded width value = first :: more ∧ first.isDigit = true := by
  cases digits : padded width value with
  | nil =>
    have empty := (List.append_eq_nil_iff.mp digits).2
    exact absurd empty Nat.toDigits_ne_nil
  | cons first more =>
    exact ⟨first, more, rfl, isDigit_of_mem_padded (digits ▸ List.mem_cons_self)⟩

theorem trimStart_cons {character : Char} (solid : isBlank character = false) (rest : List Char) :
    trimStart (character :: rest) = character :: rest := by
  rw [trimStart, List.dropWhile_cons_of_neg (by simp [solid])]

theorem isBlank_of_isDigit {character : Char} (digit : character.isDigit = true) :
    isBlank character = false := by
  have range : 48 ≤ character.toNat ∧ character.toNat ≤ 57 := Char.isDigit_iff_toNat.mp digit
  obtain ⟨least, most⟩ := range
  unfold isBlank
  generalize character.toNat = code at least most
  interval_cases code <;> rfl

theorem trimStart_padded (width value : Nat) (rest : List Char) :
    trimStart (padded width value ++ rest) = padded width value ++ rest := by
  obtain ⟨first, more, digits, digit⟩ := padded_eq_cons width value
  rw [digits, List.cons_append, trimStart_cons (isBlank_of_isDigit digit)]

/-- A number is read back from its digits, if at least as many may be read. -/
theorem readNumber?_padded {width value most : Nat} {rest : List Char} (stops : StopsDigits rest)
    (fit : (padded width value).length ≤ most) :
    readNumber? most (padded width value ++ rest) = some (value, rest) := by
  obtain ⟨first, more, digits, _⟩ := padded_eq_cons width value
  rw [readNumber?, readDigits_append (fun _ member => isDigit_of_mem_padded member) stops fit,
    ofDigitChars_padded, digits]
  rfl

/-- A number of two digits is read back. -/
theorem readField?_padded {value : Nat} {rest : List Char} (stops : StopsDigits rest)
    (fits : value < 100) : readField? 2 (padded 2 value ++ rest) = some (value, rest) := by
  rw [readField?, trimStart_padded,
    readNumber?_padded stops (length_padded (by decide) fits).le]

/-- A mark is read where it stands. -/
theorem readMark?_cons {mark : Char} (solid : isBlank mark = false) (rest : List Char) :
    readMark? mark (mark :: rest) = some rest := by
  rw [readMark?, trimStart_cons solid]
  exact if_pos rfl

/-! ### Years and decimals -/

/-- A year without a sign is read as up to four digits. -/
theorem readYear?_digits {first : Char} (digit : first.isDigit = true) (rest : List Char) :
    readYear? (first :: rest) =
      (readNumber? 4 (first :: rest)).map fun (year, rest) => ((year : Int), rest) := by
  rw [readYear?, trimStart_cons (isBlank_of_isDigit digit)]
  split
  · rename_i minus
    obtain ⟨rfl, _⟩ := List.cons.inj minus
    cases digit
  · rename_i plus
    obtain ⟨rfl, _⟩ := List.cons.inj plus
    cases digit
  · rfl

/-- A year is read back, with or without a sign. -/
theorem readYear?_writeYear (year : Int) {rest : List Char} (stops : StopsDigits rest) :
    readYear? (writeYear year ++ rest) = some (year, rest) := by
  have signed : readNumber? (padded 4 year.natAbs ++ rest).length (padded 4 year.natAbs ++ rest) =
      some (year.natAbs, rest) :=
    readNumber?_padded stops (by rw [List.length_append]; omega)
  unfold writeYear
  by_cases four : 0 ≤ year ∧ year ≤ 9999
  · have fits : year.toNat < 10 ^ 4 := by omega
    have back : (year.toNat : Int) = year := by omega
    obtain ⟨first, more, digits, digit⟩ := padded_eq_cons 4 year.toNat
    have read := readNumber?_padded stops (length_padded (by decide) fits).le
    rw [if_pos four, digits, List.cons_append, readYear?_digits digit, ← List.cons_append, ← digits,
      read, Option.map_some]
    dsimp only
    rw [back]
  · rw [if_neg four, List.cons_append]
    by_cases negative : year < 0
    · have back : -(year.natAbs : Int) = year := by omega
      rw [if_pos negative]
      show (readNumber? _ _).map _ = _
      rw [signed, Option.map_some]
      dsimp only
      rw [back]
    · have back : (year.natAbs : Int) = year := by omega
      rw [if_neg negative]
      show (readNumber? _ _).map _ = _
      rw [signed, Option.map_some]
      dsimp only
      rw [back]

/-- Decimals are read back as nanoseconds, by their number. -/
theorem readFraction?_padded {width value : Nat} (positive : 0 < width) (few : width ≤ 9)
    (fits : value < 10 ^ width) {rest : List Char} (stops : StopsDigits rest) :
    readFraction? ('.' :: (padded width value ++ rest)) =
      some (value * Nat.pow 10 (9 - width), rest) := by
  have size := length_padded positive fits
  have kept : rest.dropWhile Char.isDigit = rest := by
    cases rest with
    | nil => rfl
    | cons character rest => rw [List.dropWhile_cons_of_neg (by simp [stops character rfl])]
  have read := readDigits_append (fun _ member => isDigit_of_mem_padded member) stops
    (size.trans_le few) 0
  obtain ⟨count, rfl⟩ := Nat.exists_eq_add_one.mpr positive
  rw [ofDigitChars_padded, size] at read
  rw [readFraction?, read]
  show some (_, rest.dropWhile Char.isDigit) = _
  rw [kept]

/-- The decimals of a second are read back. -/
theorem readFraction?_writeFraction {nanosecond : Nat} (range : nanosecond ≤ 999999999)
    (rest : List Char) :
    readFraction? (writeFraction nanosecond ++ 'Z' :: rest) = some (nanosecond, 'Z' :: rest) := by
  have stops : StopsDigits ('Z' :: rest) := stopsDigits_cons rfl rest
  unfold writeFraction
  split_ifs with none millis micros
  · rw [none]
    rfl
  · have whole : nanosecond / 1000000 * Nat.pow 10 (9 - 3) = nanosecond := by
      show nanosecond / 1000000 * 1000000 = nanosecond
      omega
    rw [List.cons_append, readFraction?_padded (by decide) (by decide) (by omega) stops, whole]
  · have whole : nanosecond / 1000 * Nat.pow 10 (9 - 6) = nanosecond := by
      show nanosecond / 1000 * 1000 = nanosecond
      omega
    rw [List.cons_append, readFraction?_padded (by decide) (by decide) (by omega) stops, whole]
  · have whole : nanosecond * Nat.pow 10 (9 - 9) = nanosecond := Nat.mul_one nanosecond
    rw [List.cons_append, readFraction?_padded (by decide) (by decide) (by omega) stops, whole]

/-! ### Instants -/

theorem Date.of?_eq (date : Date) : Date.of? date.year date.month date.day = some date := by
  unfold Date.of?
  rw [dif_pos date.year_range, dif_pos date.month_range, dif_pos date.day_range]

theorem TimeOfDay.of?_eq (time : TimeOfDay) :
    TimeOfDay.of? time.hour time.minute time.second time.nanosecond = some time := by
  unfold TimeOfDay.of?
  rw [dif_pos ⟨time.hour_range, time.minute_range, time.second_range, time.nanosecond_range⟩]

/-- A local time of universal time is the instant itself. -/
theorem shift?_zero (date : Date) (time : TimeOfDay) : shift? date time 0 = some ⟨date, time⟩ := by
  have hour := time.hour_range
  have minute := time.minute_range
  have same : (((time.hour * 60 + time.minute : Int) - 0) % 1440).toNat =
      time.hour * 60 + time.minute := by omega
  have hours : (time.hour * 60 + time.minute) / 60 = time.hour := by omega
  have minutes : (time.hour * 60 + time.minute) % 60 = time.minute := by omega
  unfold shift?
  dsimp only
  rw [if_neg (by omega), if_neg (by omega), same, hours, minutes, TimeOfDay.of?_eq]
  rfl

theorem day_le (date : Date) : date.day ≤ 31 := by
  refine date.day_range.2.trans ?_
  unfold daysInMonth
  split_ifs <;> decide

/-- What follows a second does not go on with a digit. -/
theorem stopsDigits_writeFraction (nanosecond : Nat) (rest : List Char) :
    StopsDigits (writeFraction nanosecond ++ 'Z' :: rest) := by
  unfold writeFraction
  split_ifs <;> exact stopsDigits_cons rfl _

/-- **The text of an instant is read as the instant.** -/
theorem parse?_write (instant : Instant) : parse? instant.write = some instant := by
  obtain ⟨date, time⟩ := instant
  have month : date.month < 100 := by have := date.month_range; omega
  have day : date.day < 100 := by have := day_le date; omega
  have hour : time.hour < 100 := by have := time.hour_range; omega
  have minute : time.minute < 100 := by have := time.minute_range; omega
  have second : time.second < 100 := by have := time.second_range; omega
  have text : characters ⟨date, time⟩ = writeYear date.year ++ '-' :: (padded 2 date.month ++
      '-' :: (padded 2 date.day ++ 'T' :: (padded 2 time.hour ++ ':' :: (padded 2 time.minute ++
        ':' :: (padded 2 time.second ++ (writeFraction time.nanosecond ++ ['Z'])))))) := by
    simp only [characters, List.append_assoc, List.cons_append]
  have dash (rest : List Char) : StopsDigits ('-' :: rest) := stopsDigits_cons rfl rest
  have colon (rest : List Char) : StopsDigits (':' :: rest) := stopsDigits_cons rfl rest
  have separator (rest : List Char) : StopsDigits ('T' :: rest) := stopsDigits_cons rfl rest
  -- One reader after the other, each of which stops at the mark that follows.
  rw [parse?, write, String.toList_ofList, text, ofCharacters?]
  refine (bind_of_some (readYear?_writeYear date.year (dash _))).trans ?_
  refine (bind_of_some (readMark?_cons rfl _)).trans ?_
  refine (bind_of_some (readField?_padded (dash _) month)).trans ?_
  refine (bind_of_some (readMark?_cons rfl _)).trans ?_
  refine (bind_of_some (readField?_padded (separator _) day)).trans ?_
  refine (bind_of_some rfl).trans ?_
  refine (bind_of_some (readField?_padded (colon _) hour)).trans ?_
  refine (bind_of_some (readMark?_cons rfl _)).trans ?_
  refine (bind_of_some (readField?_padded (colon _) minute)).trans ?_
  refine (bind_of_some (readMark?_cons rfl _)).trans ?_
  refine (bind_of_some (readField?_padded (stopsDigits_writeFraction _ _) second)).trans ?_
  refine (bind_of_some (readFraction?_writeFraction time.nanosecond_range [])).trans ?_
  refine (bind_of_some rfl).trans ?_
  show ((Date.of? date.year date.month date.day).bind fun date => _) = _
  rw [Date.of?_eq, Option.bind_some, TimeOfDay.of?_eq]
  exact shift?_zero date time

end CrashReporter.Instant
