/-
**Integers keep their value as numerals.**

* `decimalDigits_eq_if`: the digits of a number are those of its tenth and its last one;
* `digits_map`: digits that are written are read back up to what is none;
* `ofCharacters?_integerNumeral`: the numeral of an integer is read back from its characters;
* `value?_integerNumeral`: and its value is the integer, over the whole range of sixty-four bits, signed
  and unsigned.
-/

import CrashReporter.Json.Numeral
import Mathlib.Tactic.Common
import Mathlib.Tactic.IntervalCases

namespace CrashReporter.Json

/-! ### Digits -/

theorem digit?_digitCharacter {digit : Nat} (small : digit < 10) :
    Numeral.digit? (Numeral.digitCharacter digit) = some digit := by
  have all : ∀ digit < 10, Numeral.digit? (Numeral.digitCharacter digit) = some digit := by decide
  exact all digit small

theorem isDigit_digitCharacter {digit : Nat} (small : digit < 10) :
    (Numeral.digitCharacter digit).isDigit = true := by
  have all : ∀ digit < 10, (Numeral.digitCharacter digit).isDigit = true := by decide
  exact all digit small

/-- The digits of a number are those of its tenth and its last one. -/
theorem decimalDigits_eq_if (value : Nat) :
    decimalDigits value =
      if value < 10 then [value] else decimalDigits (value / 10) ++ [value % 10] := by
  unfold decimalDigits
  rw [Nat.toDigits_eq_if (by decide : 1 < 10)]
  split
  · rename_i small
    rw [List.map_singleton, Nat.toNat_digitChar_of_lt_ten small]
    congr 1
    exact Nat.add_sub_cancel_left 48 value
  · rw [List.map_append, List.map_singleton, Nat.toNat_digitChar_of_lt_ten (Nat.mod_lt value (by decide))]
    congr 2
    exact Nat.add_sub_cancel_left 48 (value % 10)

theorem decimalDigits_ne_nil (value : Nat) : decimalDigits value ≠ [] := by
  rw [decimalDigits_eq_if]
  split <;> simp

theorem lt_ten_of_mem_decimalDigits {value digit : Nat} (member : digit ∈ decimalDigits value) :
    digit < 10 := by
  induction value using Nat.strongRecOn with
  | _ value ih =>
    rw [decimalDigits_eq_if] at member
    split at member
    · rename_i small
      rwa [List.mem_singleton.mp member]
    · rename_i large
      rcases List.mem_append.mp member with before | last
      · exact ih (value / 10) (by omega) before
      · rw [List.mem_singleton.mp last]
        exact Nat.mod_lt value (by decide)

/-- Only zero has digits that begin with zero. -/
theorem head_decimalDigits {value first : Nat} {more : List Nat}
    (split : decimalDigits value = first :: more) : first ≠ 0 ∨ value = 0 ∧ more = [] := by
  induction value using Nat.strongRecOn generalizing first more with
  | _ value ih =>
    rw [decimalDigits_eq_if] at split
    split_ifs at split with small
    · obtain ⟨rfl, rfl⟩ := List.cons.inj split
      by_cases zero : value = 0
      · exact .inr ⟨zero, rfl⟩
      · exact .inl zero
    · cases digits : decimalDigits (value / 10) with
      | nil => exact absurd digits (decimalDigits_ne_nil _)
      | cons lead others =>
        rw [digits] at split
        obtain ⟨rfl, _⟩ := List.cons.inj split
        rcases ih (value / 10) (by omega) digits with nonzero | ⟨zero, _⟩
        · exact .inl nonzero
        · omega

/-- Digits that are written are read back, up to what is no digit. -/
theorem digits_map {figures : List Nat} (small : ∀ digit ∈ figures, digit < 10) {rest : List Char}
    (stops : ∀ character ∈ rest.head?, Numeral.digit? character = none) :
    Numeral.digits (figures.map Numeral.digitCharacter ++ rest) = (figures, rest) := by
  induction figures with
  | nil =>
    cases rest with
    | nil => rfl
    | cons character rest =>
      rw [List.map_nil, List.nil_append, Numeral.digits, stops character rfl]
  | cons digit figures ih =>
    have others := ih fun other member => small other (List.mem_cons_of_mem _ member)
    rw [List.map_cons, List.cons_append, Numeral.digits,
      digit?_digitCharacter (small digit List.mem_cons_self), others]

/-! ### Integers -/

/-- The characters of an integer are its digits, after a minus sign if it is negative. -/
theorem write_integerNumeral (value : Int) :
    (integerNumeral value).write = (if value < 0 then ['-'] else []) ++
      (decimalDigits value.natAbs).map Numeral.digitCharacter := by
  unfold Numeral.write integerNumeral
  simp

/-- What is made of the digits that a numeral begins with, and of the characters after them. -/
def ofWhole? (negative : Bool) : List Nat × List Char → Option Numeral
  | ([], _) => none
  | (0 :: _ :: _, _) => none
  | (whole, rest) => Numeral.readFraction? ⟨negative, whole, [], none⟩ rest

/-- Digits that do not begin with an idle zero are read as a numeral, with or without a minus sign. -/
theorem ofCharacters?_figures (negative : Bool) {first : Nat} {more : List Nat}
    (small : ∀ digit ∈ first :: more, digit < 10) (lead : first ≠ 0 ∨ more = []) :
    Numeral.ofCharacters? ((if negative then ['-'] else []) ++
      (first :: more).map Numeral.digitCharacter) = some ⟨negative, first :: more, [], none⟩ := by
  have read : Numeral.digits ((first :: more).map Numeral.digitCharacter) = (first :: more, []) := by
    rw [← List.append_nil (List.map _ _)]
    exact digits_map small (by simp)
  have taken : Numeral.ofCharacters? ((if negative then ['-'] else []) ++
      (first :: more).map Numeral.digitCharacter) =
        ofWhole? negative (Numeral.digits ((first :: more).map Numeral.digitCharacter)) := by
    cases negative with
    | true => rfl
    | false =>
      -- No digit is a minus sign, which is seen once the digit is known.
      have known : first < 10 := small first List.mem_cons_self
      clear small lead read
      interval_cases first <;> rfl
  rw [taken, read]
  rcases lead with nonzero | rfl
  · obtain ⟨predecessor, rfl⟩ := Nat.exists_eq_succ_of_ne_zero nonzero
    rfl
  · cases first <;> rfl

/-- **The numeral of an integer is read back from its characters.** -/
theorem ofCharacters?_integerNumeral (value : Int) :
    Numeral.ofCharacters? (integerNumeral value).write = some (integerNumeral value) := by
  rw [write_integerNumeral]
  unfold integerNumeral
  cases digits : decimalDigits value.natAbs with
  | nil => exact absurd digits (decimalDigits_ne_nil _)
  | cons first more =>
    have small : ∀ digit ∈ first :: more, digit < 10 := fun digit member =>
      lt_ten_of_mem_decimalDigits (digits ▸ member)
    have lead := (head_decimalDigits digits).imp_right And.right
    have read := ofCharacters?_figures (decide (value < 0)) small lead
    simpa only [decide_eq_true_eq] using read

/-- Digits that together stay below the limit of a word are all collected. -/
theorem foldl_pushWhole {value : Nat} (fits : value < Numeral.wordLimit) :
    (decimalDigits value).foldl Numeral.Significand.pushWhole ⟨0, false, 0⟩ = ⟨value, false, 0⟩ := by
  induction value using Nat.strongRecOn with
  | _ value ih =>
    rw [decimalDigits_eq_if]
    split_ifs with small
    · unfold Numeral.Significand.pushWhole
      simp [fits]
    · rw [List.foldl_append, ih (value / 10) (by omega) (by omega)]
      have whole : value / 10 * 10 + value % 10 = value := by omega
      simp only [List.foldl_cons, List.foldl_nil, Numeral.Significand.pushWhole, whole]
      rw [if_neg (by simp [fits])]

/-- **The value of an integer's numeral is the integer.** -/
theorem value?_integerNumeral {value : Int}
    (fits : -0x8000000000000000 ≤ value ∧ value < 0x10000000000000000) :
    (integerNumeral value).value? = some (.integer value fits) := by
  have bound : value.natAbs < Numeral.wordLimit := by unfold Numeral.wordLimit; omega
  have collected : (integerNumeral value).whole.foldl Numeral.Significand.pushWhole ⟨0, false, 0⟩ =
      ⟨value.natAbs, false, 0⟩ := foldl_pushWhole bound
  have sign : (integerNumeral value).negative = decide (value < 0) := rfl
  unfold Numeral.value?
  dsimp only
  rw [collected, sign]
  by_cases negative : value < 0
  · have back : -(value.natAbs : Int) = value := by omega
    have least : 0 < value.natAbs ∧ value.natAbs ≤ 0x8000000000000000 := by omega
    rw [if_neg (by simp [negative]), if_pos ⟨⟨rfl, rfl, rfl⟩, least⟩, back, Number.ofInt?, dif_pos fits]
  · have back : (value.natAbs : Int) = value := by omega
    rw [if_pos ⟨⟨rfl, rfl, rfl⟩, by simp [negative]⟩, back, Number.ofInt?, dif_pos fits]

end CrashReporter.Json
