/-
**Octets as the characters that they spell and what is ill-formed between them.**

Octets are cut into segments (`Segments`): where a character is spelled, that is a segment, and where none is, the most
octets that one could begin with are, or a single octet if none begins like that. There is one way of doing so
(`Segments.unique`), and reading the octets finds it:

* `utf8EncodeChar_eq_cons_iff`: what completes a character after its first octet is told by the state of reading;
* `segments_iff`: so the pieces that are read are the segments;
* `decode?_eq_some_iff`: octets are well-formed if they spell characters, which are then what is read.
-/

import CrashReporter.Proofs.Text.Octets

namespace CrashReporter.Utf8

/-! ### Segments -/

/-- A character is spelled with octets that begin like this. -/
def IsBeginning (octets : List UInt8) : Prop := ∃ character, octets <+: String.utf8EncodeChar character

/-- An ill-formed piece of octets of which `rest` is left after it. -/
structure IsIllFormed (piece rest : List UInt8) : Prop where
  nonempty : piece ≠ []
  /-- No character is spelled here. -/
  misspelled : ∀ character, ¬ String.utf8EncodeChar character <+: piece ++ rest
  /-- One could begin like this, or the first octet is ill-formed by itself. -/
  begins : IsBeginning piece ∨ piece.length = 1
  /-- None could begin with more of these octets. -/
  longest : ∀ longer, longer <+: piece ++ rest → IsBeginning longer → longer.length ≤ piece.length

/-- Octets cut into characters and ill-formed pieces (`none`). -/
inductive Segments : List UInt8 → List (Option Char) → Prop where
  | nil : Segments [] []
  | character (character : Char) {rest : List UInt8} {pieces : List (Option Char)} :
    Segments rest pieces → Segments (String.utf8EncodeChar character ++ rest) (some character :: pieces)
  | illFormed {piece rest : List UInt8} {pieces : List (Option Char)} :
    IsIllFormed piece rest → Segments rest pieces → Segments (piece ++ rest) (none :: pieces)

/-- No character is spelled with the beginning of another one. -/
theorem utf8EncodeChar_append_inj {first second : Char} {rest rest' : List UInt8}
    (same : String.utf8EncodeChar first ++ rest = String.utf8EncodeChar second ++ rest') :
    first = second ∧ rest = rest' := by
  have read (character : Char) (rest : List UInt8) :
      (String.utf8EncodeChar character ++ rest).toByteArray.utf8DecodeChar? 0 = some character := by
    rw [List.toByteArray_append]
    exact ByteArray.utf8DecodeChar?_utf8EncodeChar_append
  have equal : first = second := by
    have one := read first rest
    rw [same, read second rest'] at one
    exact (Option.some.inj one).symm
  subst equal
  exact ⟨rfl, List.append_cancel_left same⟩

/-- Ill-formed pieces of the same octets are the same. -/
theorem IsIllFormed.length_le {piece rest other rest' : List UInt8} (ill : IsIllFormed piece rest)
    (ill' : IsIllFormed other rest') (same : piece ++ rest = other ++ rest') : piece.length ≤ other.length := by
  rcases ill.begins with begins | single
  · exact ill'.longest piece (same ▸ List.prefix_append piece rest) begins
  · rw [single]
    exact List.length_pos_iff.mpr ill'.nonempty

/-- **Octets have one way of being cut.** -/
theorem Segments.unique {octets : List UInt8} {pieces others : List (Option Char)} (cut : Segments octets pieces)
    (cut' : Segments octets others) : pieces = others := by
  induction cut generalizing others with
  | nil =>
    generalize whole : ([] : List UInt8) = octets at cut'
    cases cut' with
    | nil => rfl
    | character character =>
      exact absurd (List.append_eq_nil_iff.mp whole.symm).1 String.utf8EncodeChar_ne_nil
    | illFormed ill => exact absurd (List.append_eq_nil_iff.mp whole.symm).1 ill.nonempty
  | @character character rest pieces _ ih =>
    generalize whole : String.utf8EncodeChar character ++ rest = octets at cut'
    cases cut' with
    | nil => exact absurd (List.append_eq_nil_iff.mp whole).1 String.utf8EncodeChar_ne_nil
    | character other cut' =>
      obtain ⟨rfl, rfl⟩ := utf8EncodeChar_append_inj whole
      rw [ih cut']
    | illFormed ill => exact absurd (whole ▸ List.prefix_append _ _) (ill.misspelled character)
  | @illFormed piece rest pieces ill _ ih =>
    generalize whole : piece ++ rest = octets at cut'
    cases cut' with
    | nil => exact absurd (List.append_eq_nil_iff.mp whole).1 ill.nonempty
    | character character => exact absurd (whole ▸ List.prefix_append _ _) (ill.misspelled character)
    | illFormed ill' cut' =>
      have long := le_antisymm (ill.length_le ill' whole) (ill'.length_le ill whole.symm)
      obtain ⟨rfl, rfl⟩ := List.append_inj whole long
      rw [ih cut']

/-! ### Spelling -/

theorem isValid_toNat (character : Char) :
    character.toNat < 0xD800 ∨ 0xE000 ≤ character.toNat ∧ character.toNat < 0x110000 := by
  have valid : character.toNat.isValidChar := character.valid
  unfold Nat.isValidChar at valid
  omega

/-- The octets that a code point is spelled with, as numbers. All but the first one hold six bits. -/
def spelling (code : Nat) : List Nat :=
  if code < 0x80 then [code]
  else if code < 0x800 then [0xC0 + code / 64, 0x80 + code % 64]
  else if code < 0x10000 then [0xE0 + code / 4096, 0x80 + code / 64 % 64, 0x80 + code % 64]
  else [0xF0 + code / 262144, 0x80 + code / 4096 % 64, 0x80 + code / 64 % 64, 0x80 + code % 64]

theorem utf8EncodeChar_eq_iff (character : Char) (octets : List UInt8) :
    String.utf8EncodeChar character = octets ↔ spelling character.toNat = octets.map UInt8.toNat := by
  have valid := isValid_toNat character
  have numbers : (String.utf8EncodeChar character).map UInt8.toNat = spelling character.toNat := by
    unfold String.utf8EncodeChar spelling
    unfold Char.toNat at *
    generalize character.val.toNat = code at *
    dsimp only
    split_ifs <;>
      simp only [List.map_cons, List.map_nil, List.cons.injEq, and_true, UInt8.toNat_ofNat', Nat.reducePow] <;>
      omega
  rw [← numbers]
  exact (List.map_injective_iff.mpr fun _ _ => UInt8.toNat_inj.mp).eq_iff.symm

theorem utf8EncodeChar_eq_one_iff (character : Char) (first : UInt8) :
    String.utf8EncodeChar character = [first] ↔ first.toNat < 0x80 ∧ character.toNat = first.toNat := by
  rw [utf8EncodeChar_eq_iff, spelling]
  split_ifs <;> simp <;> omega

theorem utf8EncodeChar_eq_two_iff (character : Char) (first second : UInt8) :
    String.utf8EncodeChar character = [first, second] ↔
      (0xC2 ≤ first.toNat ∧ first.toNat < 0xE0) ∧ (0x80 ≤ second.toNat ∧ second.toNat < 0xC0) ∧
        character.toNat = (first.toNat - 0xC0) * 64 + (second.toNat - 0x80) := by
  rw [utf8EncodeChar_eq_iff, spelling]
  split_ifs <;> simp <;> omega

theorem utf8EncodeChar_eq_three_iff (character : Char) (first second third : UInt8) :
    String.utf8EncodeChar character = [first, second, third] ↔
      (0xE0 ≤ first.toNat ∧ first.toNat < 0xF0) ∧ (0x80 ≤ second.toNat ∧ second.toNat < 0xC0) ∧
        (0x80 ≤ third.toNat ∧ third.toNat < 0xC0) ∧ 0x800 ≤ character.toNat ∧
          character.toNat =
            ((first.toNat - 0xE0) * 64 + (second.toNat - 0x80)) * 64 + (third.toNat - 0x80) := by
  rw [utf8EncodeChar_eq_iff, spelling]
  split_ifs <;> simp <;> omega

theorem utf8EncodeChar_eq_four_iff (character : Char) (first second third fourth : UInt8) :
    String.utf8EncodeChar character = [first, second, third, fourth] ↔
      (0xF0 ≤ first.toNat ∧ first.toNat < 0xF8) ∧ (0x80 ≤ second.toNat ∧ second.toNat < 0xC0) ∧
        (0x80 ≤ third.toNat ∧ third.toNat < 0xC0) ∧ (0x80 ≤ fourth.toNat ∧ fourth.toNat < 0xC0) ∧
          0x10000 ≤ character.toNat ∧
            character.toNat =
              (((first.toNat - 0xF0) * 64 + (second.toNat - 0x80)) * 64 + (third.toNat - 0x80)) * 64 +
                (fourth.toNat - 0x80) := by
  have valid := isValid_toNat character
  rw [utf8EncodeChar_eq_iff, spelling]
  split_ifs <;> simp <;> omega

/-- Octets that complete the character under way. -/
def Progress.Completes : Progress → List UInt8 → Char → Prop
  | .start, _, _ => False
  | .within _ _ _ _, [], _ => False
  | .within owed lowest highest value, octet :: rest, character =>
    (lowest ≤ octet ∧ octet ≤ highest) ∧
      if owed ≤ 1 then rest = [] ∧ character.toNat = value * 64 + (octet.toNat - 0x80)
      else Completes (.within (owed - 1) 0x80 0xBF (value * 64 + (octet.toNat - 0x80))) rest character

theorem not_completes_nil (progress : Progress) (character : Char) : ¬ progress.Completes [] character := by
  cases progress <;> simp [Progress.Completes]

/-- **What spells a character is told by what is read of its first octet**: that is the character, or the state tells
what completes it. -/
theorem utf8EncodeChar_eq_cons_iff (character : Char) (octet : UInt8) (rest : List UInt8) :
    String.utf8EncodeChar character = octet :: rest ↔
      ((enter octet).1 = [some character] ∧ rest = []) ∨ (enter octet).2.Completes rest character := by
  have valid := isValid_toNat character
  have bound := octet.toNat_lt
  match rest with
  | [] =>
    rw [utf8EncodeChar_eq_one_iff, or_iff_left (not_completes_nil _ _), and_iff_left rfl]
    have read (small : octet.toNat < 0x80) : Char.ofNat octet.toNat = character ↔ character.toNat = octet.toNat := by
      rw [← Char.toNat_inj, toNat_ofNat (.inl (small.trans (by decide))), eq_comm]
    fun_cases enter octet <;> simp_all [UInt8.lt_iff_toNat_lt]
  | [second] =>
    rw [utf8EncodeChar_eq_two_iff]
    fun_cases enter octet <;>
      simp_all [Progress.Completes, UInt8.lt_iff_toNat_lt, UInt8.le_iff_toNat_le, ← UInt8.toNat_inj] <;>
      omega
  | [second, third] =>
    rw [utf8EncodeChar_eq_three_iff]
    fun_cases enter octet <;>
      simp_all [Progress.Completes, UInt8.lt_iff_toNat_lt, UInt8.le_iff_toNat_le, ← UInt8.toNat_inj] <;>
      omega
  | [second, third, fourth] =>
    rw [utf8EncodeChar_eq_four_iff]
    fun_cases enter octet <;>
      simp_all [Progress.Completes, UInt8.lt_iff_toNat_lt, UInt8.le_iff_toNat_le, ← UInt8.toNat_inj] <;>
      omega
  | second :: third :: fourth :: fifth :: more =>
    have few : (String.utf8EncodeChar character).length ≤ 4 :=
      String.length_utf8EncodeChar character ▸ Char.utf8Size_le_four character
    refine iff_of_false (fun spelled => ?_) ?_
    · rw [spelled] at few
      simp only [List.length_cons] at few
      omega
    · fun_cases enter octet <;> simp [Progress.Completes]

theorem enter_cases (octet : UInt8) :
    (∃ character, enter octet = ([some character], .start)) ∨ enter octet = ([none], .start) ∨
      ∃ owed lowest highest value, lowest ≤ highest ∧ enter octet = ([], .within owed lowest highest value) := by
  fun_cases enter octet <;> simp

/-! ### What is under way -/

/-- Some octets complete the character under way. -/
theorem exists_completes {owed value : Nat} {lowest highest : UInt8}
    (sound : (Progress.within owed lowest highest value).IsSound) (fits : lowest ≤ highest) :
    ∃ rest character, (Progress.within owed lowest highest value).Completes rest character := by
  obtain ⟨⟨least, most⟩, low, high, positive, valid⟩ := sound
  have range := UInt8.le_iff_toNat_le.mp fits
  -- The least octets that may follow do.
  obtain ⟨character, code⟩ : ∃ character : Char,
      character.toNat = (value * 64 + (lowest.toNat - 0x80)) * 64 ^ (owed - 1) :=
    ⟨_, toNat_ofNat (by interval_cases owed <;> omega)⟩
  refine ⟨lowest :: List.replicate (owed - 1) 0x80, character, ?_⟩
  interval_cases owed <;> simp [Progress.Completes, fits, code, Nat.mul_assoc]

/-- Octets that were read of a character, and the state that they led to. -/
structure Awaits (seen : List UInt8) (progress : Progress) : Prop where
  nonempty : seen ≠ []
  sound : progress.IsSound
  begins : IsBeginning seen
  spelled : ∀ rest character, String.utf8EncodeChar character = seen ++ rest ↔ progress.Completes rest character
  /-- Not even a part of them spells a character. -/
  unspelled : ∀ character, ¬ String.utf8EncodeChar character <+: seen

theorem unspelled_concat {seen : List UInt8} {octet : UInt8}
    (before : ∀ character, ¬ String.utf8EncodeChar character <+: seen)
    (here : ∀ character, String.utf8EncodeChar character ≠ seen ++ [octet]) (character : Char) :
    ¬ String.utf8EncodeChar character <+: seen ++ [octet] := by
  rw [List.prefix_concat_iff, not_or]
  exact ⟨here character, before character⟩

theorem unspelled_nil (character : Char) : ¬ String.utf8EncodeChar character <+: [] := by
  rw [List.prefix_nil]
  exact String.utf8EncodeChar_ne_nil

theorem Awaits.of_spelled {seen : List UInt8} {octet : UInt8} {owed value : Nat} {lowest highest : UInt8}
    (before : ∀ character, ¬ String.utf8EncodeChar character <+: seen)
    (sound : (Progress.within owed lowest highest value).IsSound) (fits : lowest ≤ highest)
    (spelled : ∀ rest character, String.utf8EncodeChar character = seen ++ octet :: rest ↔
      (Progress.within owed lowest highest value).Completes rest character) :
    Awaits (seen ++ [octet]) (.within owed lowest highest value) where
  nonempty := by simp
  sound := sound
  begins := by
    obtain ⟨rest, character, completes⟩ := exists_completes sound fits
    have whole := (spelled rest character).mpr completes
    exact ⟨character, rest, by simp [whole]⟩
  spelled rest character := by simpa using spelled rest character
  unspelled := unspelled_concat before fun character same =>
    not_completes_nil _ character ((spelled [] character).mp same)

/-- The first octet of a character. -/
theorem Awaits.first {octet : UInt8} {owed value : Nat} {lowest highest : UInt8} (fits : lowest ≤ highest)
    (entered : enter octet = ([], .within owed lowest highest value)) :
    Awaits [octet] (.within owed lowest highest value) := by
  have nonzero : octet ≠ 0 := by
    rintro rfl
    exact absurd (congrArg Prod.fst entered) (by simp [enter])
  have sound := (enter_sound nonzero).2
  rw [entered] at sound
  refine @Awaits.of_spelled [] _ _ _ _ _ unspelled_nil sound fits fun rest character => ?_
  rw [List.nil_append, utf8EncodeChar_eq_cons_iff, entered]
  simp

section Within

variable {seen rest : List UInt8} {octet : UInt8} {owed value : Nat} {lowest highest : UInt8}

/-- One more octet of a character that takes even more. -/
theorem Awaits.next (awaits : Awaits seen (.within owed lowest highest value))
    (fits : lowest ≤ octet ∧ octet ≤ highest) (more : ¬ owed ≤ 1) :
    Awaits (seen ++ [octet]) (.within (owed - 1) 0x80 0xBF (value * 64 + (octet.toNat - 0x80))) := by
  have nonzero : octet ≠ 0 := by
    rintro rfl
    have low := awaits.sound.2.1
    have small := UInt8.le_iff_toNat_le.mp fits.1
    rw [UInt8.toNat_zero] at small
    omega
  have sound := (advance_sound awaits.sound nonzero).2
  rw [advance, if_pos fits, if_neg more] at sound
  refine Awaits.of_spelled awaits.unspelled sound (by decide) fun rest character => ?_
  rw [awaits.spelled, Progress.Completes, if_neg more, and_iff_right fits]

/-- The last octet of a character. -/
theorem Awaits.last (awaits : Awaits seen (.within owed lowest highest value))
    (fits : lowest ≤ octet ∧ octet ≤ highest) (done : owed ≤ 1) :
    String.utf8EncodeChar (Char.ofNat (value * 64 + (octet.toNat - 0x80))) = seen ++ [octet] := by
  obtain ⟨⟨least, most⟩, low, high, positive, valid⟩ := awaits.sound
  have range := And.intro (UInt8.le_iff_toNat_le.mp fits.1) (UInt8.le_iff_toNat_le.mp fits.2)
  have one : owed = 1 := by omega
  subst one
  rw [awaits.spelled, Progress.Completes, if_pos (Nat.le_refl 1)]
  exact ⟨fits, rfl, toNat_ofNat (by omega)⟩

/-- An octet that does not go on with a character. -/
theorem Awaits.not_isBeginning (awaits : Awaits seen (.within owed lowest highest value))
    (unfit : ¬ (lowest ≤ octet ∧ octet ≤ highest)) : ¬ IsBeginning (seen ++ [octet]) := by
  rintro ⟨character, rest, whole⟩
  rw [List.append_assoc, List.singleton_append, eq_comm, awaits.spelled] at whole
  exact unfit whole.1

/-- A piece is ill-formed where it ends before a character is spelled and cannot be longer. -/
theorem isIllFormed_of_ends (nonempty : seen ≠ [])
    (unspelled : ∀ character, ¬ String.utf8EncodeChar character <+: seen)
    (begins : IsBeginning seen ∨ seen.length = 1)
    (ends : ∀ octet ∈ rest.head?, ¬ IsBeginning (seen ++ [octet])) : IsIllFormed seen rest := by
  have within {octets : List UInt8} (part : octets <+: seen ++ rest) :
      octets <+: seen ∨ ∃ octet ∈ rest.head?, seen ++ [octet] <+: octets := by
    cases rest with
    | nil => exact .inl (by simpa using part)
    | cons octet rest =>
      have cut : seen ++ [octet] <+: seen ++ octet :: rest := ⟨rest, by simp⟩
      rcases List.prefix_or_prefix_of_prefix part cut with short | long
      · rcases List.prefix_concat_iff.mp short with rfl | shorter
        · exact .inr ⟨octet, rfl, List.prefix_rfl⟩
        · exact .inl shorter
      · exact .inr ⟨octet, rfl, long⟩
  refine ⟨nonempty, fun character part => ?_, begins, fun longer part beginning => ?_⟩
  · rcases within part with here | ⟨octet, next, further⟩
    · exact unspelled character here
    · exact ends octet next ⟨character, further⟩
  · rcases within part with here | ⟨octet, next, further⟩
    · exact here.length_le
    · obtain ⟨character, begun⟩ := beginning
      exact absurd ⟨character, further.trans begun⟩ (ends octet next)

end Within

/-- An octet with which no character begins is ill-formed by itself. -/
theorem isIllFormed_of_refused {octet : UInt8} (refused : enter octet = ([none], .start)) (rest : List UInt8) :
    IsIllFormed [octet] rest := by
  have misspelled : ¬ IsBeginning [octet] := by
    rintro ⟨character, more, whole⟩
    have told := (utf8EncodeChar_eq_cons_iff character octet more).mp whole.symm
    simp [refused, Progress.Completes] at told
  refine isIllFormed_of_ends (by simp) (@unspelled_concat [] octet unspelled_nil ?_) (.inr rfl) ?_
  · exact fun character same => misspelled ⟨character, same ▸ List.prefix_rfl⟩
  · rintro next - ⟨character, begun⟩
    exact misspelled ⟨character, (List.prefix_append _ _).trans begun⟩

/-- **The pieces that are read are the segments**, between two characters and within one. -/
theorem segments_scanFrom (octets : List UInt8) :
    Segments octets (scan octets) ∧ ∀ seen owed lowest highest value,
      Awaits seen (.within owed lowest highest value) →
        Segments (seen ++ octets) (scanFrom (.within owed lowest highest value) octets) := by
  induction octets with
  | nil =>
    refine ⟨.nil, fun seen owed lowest highest value awaits => ?_⟩
    exact .illFormed (isIllFormed_of_ends awaits.nonempty awaits.unspelled (.inl awaits.begins) (by simp)) .nil
  | cons octet rest ih =>
    have start : Segments (octet :: rest) (scan (octet :: rest)) := by
      show Segments _ ((enter octet).1 ++ scanFrom (enter octet).2 rest)
      rcases enter_cases octet with ⟨character, entered⟩ | entered | ⟨owed, lowest, highest, value, fits, entered⟩
      · have single := (utf8EncodeChar_eq_cons_iff character octet []).mpr
          (.inl ⟨congrArg Prod.fst entered, rfl⟩)
        rw [entered, ← List.singleton_append, ← single]
        exact .character character ih.1
      · rw [entered]
        exact .illFormed (isIllFormed_of_refused entered rest) ih.1
      · rw [entered]
        exact ih.2 [octet] owed lowest highest value (.first fits entered)
    refine ⟨start, fun seen owed lowest highest value awaits => ?_⟩
    rw [scanFrom, advance]
    by_cases fits : lowest ≤ octet ∧ octet ≤ highest
    · by_cases done : owed ≤ 1
      · rw [if_pos fits, if_pos done, ← List.singleton_append, ← List.append_assoc, ← awaits.last fits done]
        exact .character _ ih.1
      · rw [if_pos fits, if_neg done, ← List.singleton_append, ← List.append_assoc]
        exact ih.2 _ _ _ _ _ (awaits.next fits done)
    · -- The octet is read afresh.
      rw [if_neg fits]
      refine .illFormed (isIllFormed_of_ends awaits.nonempty awaits.unspelled (.inl awaits.begins) ?_) start
      rintro next ⟨⟩
      exact awaits.not_isBeginning fits

/-- **What is read of octets are their segments.** -/
theorem segments_iff (octets : List UInt8) (pieces : List (Option Char)) :
    Segments octets pieces ↔ scan octets = pieces := by
  have read := (segments_scanFrom octets).1
  exact ⟨read.unique, fun same => same ▸ read⟩

/-! ### Well-formed octets -/

theorem segments_encode (characters : List Char) : Segments (encode characters) (characters.map some) := by
  induction characters with
  | nil => exact .nil
  | cons character rest ih => exact .character character ih

/-- Segments that are all characters spell these. -/
theorem Segments.eq_encode {octets : List UInt8} {pieces : List (Option Char)} (cut : Segments octets pieces)
    {characters : List Char} (whole : pieces = characters.map some) : octets = encode characters := by
  induction cut generalizing characters with
  | nil =>
    rw [List.map_eq_nil_iff.mp whole.symm]
    rfl
  | character character _ ih =>
    obtain ⟨first, rest, rfl, same, others⟩ := List.map_eq_cons_iff.mp whole.symm
    rw [encode_cons, ← ih others.symm, Option.some.inj same]
  | illFormed =>
    obtain ⟨first, rest, -, same, -⟩ := List.map_eq_cons_iff.mp whole.symm
    exact absurd same (by simp)

theorem scan_encode (characters : List Char) : scan (encode characters) = characters.map some :=
  (segments_iff _ _).mp (segments_encode characters)

theorem mapM_id_eq_some_iff {α : Type} (pieces : List (Option α)) (values : List α) :
    pieces.mapM id = some values ↔ pieces = values.map some := by
  induction pieces generalizing values with
  | nil => cases values <;> simp
  | cons piece pieces ih =>
    rw [List.mapM_cons]
    cases piece with
    | none =>
      refine iff_of_false (by simp) fun same => ?_
      obtain ⟨value, rest, -, other, -⟩ := List.map_eq_cons_iff.mp same.symm
      exact absurd other (by simp)
    | some value => cases values <;> simp [Option.bind_eq_some_iff, ih, and_comm]

/-- **Octets are well-formed if they spell characters**, and these are read. -/
theorem decode?_eq_some_iff (octets : List UInt8) (characters : List Char) :
    decode? octets = some characters ↔ octets = encode characters := by
  rw [decode?, mapM_id_eq_some_iff]
  constructor
  · exact fun same => ((segments_iff _ _).mpr same).eq_encode rfl
  · rintro rfl
    exact scan_encode characters

/-- Well-formed octets are read without loss. -/
theorem decodeLossy_encode (characters : List Char) : decodeLossy (encode characters) = characters := by
  rw [decodeLossy, scan_encode, List.map_map]
  exact List.map_id characters

theorem encode_injective : Function.Injective encode := Function.LeftInverse.injective decodeLossy_encode

end CrashReporter.Utf8
