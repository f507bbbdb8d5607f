/-
**Strings and their octets.**

* `encode_lt_iff`: strings are ordered as their octets are;
* `decodeLossy_eq_nil_iff`, `nul_not_mem_decodeLossy`: whatever octets are read, ill-formed or not, something is
  read of them if there are any, and no NUL if there is none among them.
-/

import CrashReporter.Text.Basic
import Mathlib.Data.String.Basic
import Mathlib.Tactic.Common
import Mathlib.Tactic.IntervalCases

namespace CrashReporter.Utf8

/-! ### Order -/

/-- A smaller character has smaller octets, whatever follows. -/
theorem utf8EncodeChar_append_lt {first second : Char} (less : first < second)
    (rest rest' : List UInt8) :
    String.utf8EncodeChar first ++ rest < String.utf8EncodeChar second ++ rest' := by
  have less : first.val.toNat < second.val.toNat := less
  have bound : second.val.toNat < 0x110000 := by
    have valid := second.valid
    unfold UInt32.isValidChar Nat.isValidChar at valid
    omega
  have digits (code : Nat) :
      code / 4096 = code / 64 / 64 ∧ code / 262144 = code / 64 / 64 / 64 := by omega
  have fits (digit : Nat) : (digit % 64 + 128) % 256 = digit % 64 + 128 ∧
      (digit % 32 + 192) % 256 = digit % 32 + 192 ∧ (digit % 16 + 224) % 256 = digit % 16 + 224 ∧
        (digit % 8 + 240) % 256 = digit % 8 + 240 := by omega
  unfold String.utf8EncodeChar
  simp only [(digits _).1, (digits _).2]
  generalize first.val.toNat = code at less
  generalize second.val.toNat = code' at less bound
  -- The first octets differ unless both characters have as many; then it is up to their digits.
  split_ifs <;>
    simp only [List.cons_append, List.nil_append, List.cons_lt_cons_iff, UInt8.lt_iff_toNat_lt,
      ← UInt8.toNat_inj, UInt8.toNat_ofNat', Nat.reducePow, fits] <;>
    omega

theorem encode_cons (character : Char) (characters : List Char) :
    encode (character :: characters) = String.utf8EncodeChar character ++ encode characters := rfl

theorem encode_lt_encode {first second : List Char} (less : first < second) :
    encode first < encode second := by
  induction first generalizing second with
  | nil =>
    cases second with
    | nil => exact absurd less (List.lt_irrefl _)
    | cons character rest =>
      obtain ⟨octet, octets, spelled⟩ :=
        List.exists_cons_of_ne_nil (String.utf8EncodeChar_ne_nil (c := character))
      rw [encode_cons, spelled]
      exact List.nil_lt_cons _ _
  | cons character rest ih =>
    cases second with
    | nil => exact absurd less (List.not_lt_nil _)
    | cons other rest' =>
      rw [encode_cons, encode_cons]
      rcases List.cons_lt_cons_iff.mp less with smaller | ⟨rfl, later⟩
      · exact utf8EncodeChar_append_lt smaller _ _
      · exact List.append_left_lt (ih later)

/-- **Strings are ordered as their octets are.** -/
theorem encode_lt_iff (first second : String) :
    encode first.toList < encode second.toList ↔ first < second := by
  refine ⟨fun less => ?_, encode_lt_encode⟩
  rcases lt_trichotomy first second with before | rfl | after
  · exact before
  · exact absurd less (List.lt_irrefl _)
  · exact absurd less (List.lt_asymm (encode_lt_encode after))

/-! ### Reading whatever there is -/

/-- However the character under way is completed, its code point is valid and not zero. -/
def Progress.IsSound : Progress → Prop
  | .start => True
  | .within owed lowest highest value =>
    (1 ≤ owed ∧ owed ≤ 3) ∧ 0x80 ≤ lowest.toNat ∧ highest.toNat ≤ 0xBF ∧
      0x80 < value * 64 + lowest.toNat ∧
        ((value * 64 + highest.toNat - 0x7F) * 64 ^ (owed - 1) ≤ 0xD800 ∨
          0xE000 ≤ (value * 64 + lowest.toNat - 0x80) * 64 ^ (owed - 1) ∧
            (value * 64 + highest.toNat - 0x7F) * 64 ^ (owed - 1) ≤ 0x110000)

/-- A valid code point is that of its character. -/
theorem toNat_ofNat {code : Nat} (valid : code < 0xD800 ∨ 0xE000 ≤ code ∧ code < 0x110000) :
    (Char.ofNat code).toNat = code := by
  have proper : code.isValidChar := by
    unfold Nat.isValidChar
    omega
  rw [Char.ofNat, dif_pos proper]
  rfl

theorem ofNat_ne_nul {code : Nat} (positive : 0 < code)
    (valid : code < 0xD800 ∨ 0xE000 ≤ code ∧ code < 0x110000) : Char.ofNat code ≠ nul := by
  intro same
  have read := toNat_ofNat valid
  rw [same] at read
  have zero : nul.toNat = 0 := rfl
  omega

theorem toNat_pos {octet : UInt8} (nonzero : octet ≠ 0) : 0 < octet.toNat := by
  rw [Nat.pos_iff_ne_zero, ← UInt8.toNat_zero, Ne, UInt8.toNat_inj]
  exact nonzero

/-- Between two characters, an octet other than NUL means no NUL, nor does it begin one. -/
theorem enter_sound {octet : UInt8} (nonzero : octet ≠ 0) :
    (∀ piece ∈ (enter octet).1, piece ≠ some nul) ∧ (enter octet).2.IsSound := by
  constructor
  · have character (small : octet < 0x80) : Char.ofNat octet.toNat ≠ nul := by
      rw [UInt8.lt_iff_toNat_lt] at small
      exact ofNat_ne_nul (toNat_pos nonzero) (.inl (small.trans (by decide)))
    fun_cases enter octet <;> simp [*]
  · have bound := octet.toNat_lt
    fun_cases enter octet <;>
      simp only [UInt8.lt_iff_toNat_lt, ← UInt8.toNat_inj, Progress.IsSound, UInt8.reduceToNat] at * <;>
      omega

/-- However octets other than NUL go on with a character under way, they mean no NUL. -/
theorem advance_sound {progress : Progress} (sound : progress.IsSound) {octet : UInt8}
    (nonzero : octet ≠ 0) :
    (∀ piece ∈ (advance progress octet).1, piece ≠ some nul) ∧
      (advance progress octet).2.IsSound := by
  cases progress with
  | start => exact enter_sound nonzero
  | within owed lowest highest value =>
    obtain ⟨⟨least, most⟩, low, high, positive, valid⟩ := sound
    rw [advance]
    by_cases fits : lowest ≤ octet ∧ octet ≤ highest
    · rw [if_pos fits]
      rw [UInt8.le_iff_toNat_le, UInt8.le_iff_toNat_le] at fits
      interval_cases owed
      · have code : Char.ofNat (value * 64 + (octet.toNat - 0x80)) ≠ nul :=
          ofNat_ne_nul (by omega) (by omega)
        simpa [Progress.IsSound] using code
      · refine ⟨by simp, ?_⟩
        simp only [Nat.reduceLeDiff, if_false, Progress.IsSound, UInt8.reduceToNat, Nat.reduceSub,
          Nat.reducePow, and_self, true_and] at *
        omega
      · refine ⟨by simp, ?_⟩
        simp only [Nat.reduceLeDiff, if_false, Progress.IsSound, UInt8.reduceToNat, Nat.reduceSub,
          Nat.reducePow, and_self, true_and] at *
        omega
    · rw [if_neg fits]
      obtain ⟨pieces, further⟩ := enter_sound nonzero
      exact ⟨List.forall_mem_cons.mpr ⟨by simp, pieces⟩, further⟩

theorem scanFrom_sound {progress : Progress} (sound : progress.IsSound) {octets : List UInt8}
    (free : 0 ∉ octets) : ∀ piece ∈ scanFrom progress octets, piece ≠ some nul := by
  induction octets generalizing progress with
  | nil => cases progress <;> simp [scanFrom, Progress.finish]
  | cons octet octets ih =>
    rw [List.mem_cons, not_or] at free
    obtain ⟨pieces, further⟩ := advance_sound sound (Ne.symm free.1)
    exact List.forall_mem_append.mpr ⟨pieces, ih further free.2⟩

/-- **Octets without a NUL are read without a NUL**, ill-formed or not. -/
theorem nul_not_mem_decodeLossy {octets : List UInt8} (free : 0 ∉ octets) :
    nul ∉ decodeLossy octets := by
  intro member
  obtain ⟨piece, scanned, read⟩ := List.mem_map.mp member
  cases piece with
  | none => exact absurd read (by decide)
  | some character =>
    exact scanFrom_sound (show Progress.start.IsSound from trivial) free _ scanned (congrArg some read)

theorem enter_ne_nil (octet : UInt8) : (enter octet).1 ≠ [] ∨ (enter octet).2 ≠ .start := by
  fun_cases enter octet <;> simp

/-- After an octet, something has been read or a character is under way. -/
theorem advance_ne_nil (progress : Progress) (octet : UInt8) :
    (advance progress octet).1 ≠ [] ∨ (advance progress octet).2 ≠ .start := by
  cases progress with
  | start => exact enter_ne_nil octet
  | within owed lowest highest value =>
    rw [advance]
    split_ifs <;> simp

theorem scanFrom_eq_nil_iff (progress : Progress) (octets : List UInt8) :
    scanFrom progress octets = [] ↔ progress = .start ∧ octets = [] := by
  induction octets generalizing progress with
  | nil => cases progress <;> simp [scanFrom, Progress.finish]
  | cons octet octets ih =>
    refine iff_of_false (fun empty => ?_) (fun both => List.cons_ne_nil _ _ both.2)
    obtain ⟨pieces, rest⟩ := List.append_eq_nil_iff.mp empty
    rcases advance_ne_nil progress octet with some_read | under_way
    · exact some_read pieces
    · exact under_way ((ih _).mp rest).1

/-- **Something is read of octets exactly if there are any**, ill-formed or not. -/
@[simp] theorem decodeLossy_eq_nil_iff (octets : List UInt8) : decodeLossy octets = [] ↔ octets = [] := by
  rw [decodeLossy, List.map_eq_nil_iff, scan, scanFrom_eq_nil_iff]
  exact and_iff_right rfl

end CrashReporter.Utf8
