/-
**What the environment says about numbers.**

* `Environment.value?_eq_some_iff`: a variable has a value if it is set to a text that is not empty;
* `trimmedWord?_eq_some_iff`: a text is read as the number that its decimal digits spell, maybe after a plus sign and
  between white space, if that fits sixty-four bits;
* `Environment.number_eq_some_iff`, `Environment.number_eq_error_iff`: so a variable that is set gives a number, or is
  refused with what it is set to.
-/

import CrashReporter.Config.Source
import CrashReporter.Proofs.Text.Segments
import Mathlib.Data.Nat.Digits.Defs

namespace CrashReporter

/-! ### Variables -/

namespace Environment

variable {environment : Environment} {key : Variable} {value : String}

/-- A variable is set to a text that is not empty. Octets that spell no text count as nothing. -/
def Sets (environment : Environment) (key : Variable) (value : String) : Prop :=
  value ≠ "" ∧ environment key = some (Utf8.encode value.toList)

theorem value?_eq_some_iff : environment.value? key = some value ↔ environment.Sets key value := by
  unfold value? Sets
  simp only [Option.bind_eq_bind, Option.bind_eq_some_iff, Utf8.decode?_eq_some_iff, ite_eq_iff]
  constructor
  · rintro ⟨octets, given, characters, rfl, ⟨-, nothing⟩ | ⟨filled, same⟩⟩
    · cases nothing
    · obtain rfl := Option.some.inj same
      rw [String.toList_ofList]
      exact ⟨by simpa using filled, given⟩
  · rintro ⟨filled, given⟩
    refine ⟨_, given, value.toList, rfl, .inr ⟨?_, by rw [String.ofList_toList]⟩⟩
    exact fun empty => filled (String.toList_eq_nil_iff.mp empty)

theorem value?_eq_none_iff : environment.value? key = none ↔ ∀ value, ¬ environment.Sets key value := by
  simp only [Option.eq_none_iff_forall_ne_some, ne_eq, value?_eq_some_iff]

end Environment

/-! ### Decimal numbers -/

/-- Characters are a number in decimal digits, at least one, maybe after a plus sign. -/
def IsDecimal (characters : List Char) (number : Nat) : Prop :=
  ∃ digits, (characters = digits ∨ characters = '+' :: digits) ∧ digits ≠ [] ∧ (∀ digit ∈ digits, digit.isDigit) ∧
    number = Nat.ofDigits 10 (digits.reverse.map fun digit => digit.toNat - '0'.toNat)

/-- Digits are read from the most significant one on. -/
theorem foldl_digits (digits : List Char) :
    digits.foldl (fun value digit => value * 10 + (digit.toNat - '0'.toNat)) 0 =
      Nat.ofDigits 10 (digits.reverse.map fun digit => digit.toNat - '0'.toNat) := by
  rw [Nat.ofDigits_eq_foldr, List.map_reverse, List.foldr_reverse, List.foldl_map]
  congr 1
  funext value digit
  rw [Nat.mul_comm, Nat.add_comm]
  rfl

theorem decimalWord?_eq_some_iff (digits : List Char) (number : UInt64) :
    decimalWord? digits = some number ↔
      digits ≠ [] ∧ (∀ digit ∈ digits, digit.isDigit) ∧
        number.toNat = Nat.ofDigits 10 (digits.reverse.map fun digit => digit.toNat - '0'.toNat) := by
  unfold decimalWord?
  simp only [foldl_digits, List.all_eq_true]
  generalize Nat.ofDigits 10 (digits.reverse.map fun digit => digit.toNat - '0'.toNat) = value
  have bound := number.toNat_lt
  split_ifs with proper fits
  · have read : (UInt64.ofNat value).toNat = value := UInt64.toNat_ofNat_of_lt fits
    rw [Option.some.injEq, ← UInt64.toNat_inj, read, eq_comm]
    exact ⟨fun same => ⟨proper.1, proper.2, same⟩, fun spelled => spelled.2.2⟩
  · refine iff_of_false (by simp) fun ⟨_, _, same⟩ => fits (same ▸ bound)
  · exact iff_of_false (by simp) fun ⟨filled, digital, _⟩ => proper ⟨filled, digital⟩

/-- **A text is read as the number that it is** without its outer white space. -/
theorem trimmedWord?_eq_some_iff (value : String) (number : UInt64) :
    trimmedWord? value = some number ↔ IsDecimal (Text.trim value.toList) number.toNat := by
  unfold trimmedWord? IsDecimal
  generalize Text.trim value.toList = characters
  split
  · rename_i digits
    rw [decimalWord?_eq_some_iff]
    constructor
    · exact fun read => ⟨digits, .inr rfl, read⟩
    · rintro ⟨others, rfl | same, filled, digital, meant⟩
      · exact absurd (digital '+' List.mem_cons_self) (by decide)
      · rw [(List.cons.inj same).2]
        exact ⟨filled, digital, meant⟩
  · rename_i unsigned
    rw [decimalWord?_eq_some_iff]
    constructor
    · exact fun read => ⟨characters, .inl rfl, read⟩
    · rintro ⟨digits, rfl | same, read⟩
      · exact read
      · exact absurd same (unsigned digits)

/-! ### Numbers of variables -/

namespace Environment

/-- A variable is set to what is no number of sixty-four bits. -/
def Misstates (environment : Environment) (key : Variable) (value : String) : Prop :=
  environment.Sets key value ∧ ∀ number : UInt64, ¬ IsDecimal (Text.trim value.toList) number.toNat

/-- A variable is set to a number. -/
def States (environment : Environment) (key : Variable) (number : UInt64) : Prop :=
  ∃ value, environment.Sets key value ∧ IsDecimal (Text.trim value.toList) number.toNat

variable {environment : Environment} {key : Variable}

theorem number_eq_some_iff (number : UInt64) :
    environment.number key = .ok (some number) ↔ environment.States key number := by
  unfold Environment.number States
  simp only [← value?_eq_some_iff, ← trimmedWord?_eq_some_iff]
  cases environment.value? key with
  | none => simp
  | some value =>
    dsimp only
    cases read : trimmedWord? value <;> simp [read]

theorem number_eq_none_iff : environment.number key = .ok none ↔ ∀ value, ¬ environment.Sets key value := by
  unfold Environment.number
  rw [← value?_eq_none_iff]
  cases environment.value? key with
  | none => simp
  | some value =>
    dsimp only
    cases trimmedWord? value <;> simp

/-- The error of a variable names it, with what it is set to. -/
theorem number_eq_error_iff (cause : ConfigError) :
    environment.number key = .error cause ↔
      ∃ value, environment.Misstates key value ∧ cause = .invalidNumber key value := by
  unfold Environment.number Misstates
  simp only [← value?_eq_some_iff, ← trimmedWord?_eq_some_iff]
  cases environment.value? key with
  | none => simp
  | some value =>
    dsimp only
    cases read : trimmedWord? value <;> simp [read, eq_comm]

end Environment

end CrashReporter
