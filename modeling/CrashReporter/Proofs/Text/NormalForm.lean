/-
**The one form of a text, whatever it is made from.**

* `ofOctets?_eq_some_iff`, `ofString?_eq_some_iff_append`: a text of octets spells what is read of them, and a text of a
  string is what stands before its first NUL;
* `ofOctets?_encode`, `fromText?_render`: however a string is handed over, as octets or as JSON, the same text is made
  of it;
* `zero_not_mem_encode`: the octets of a text hold no NUL but the last one.

`normal_form` is the account of all constructors, and of the ways back.
-/

import CrashReporter.Proofs.Event.Written
import CrashReporter.Proofs.Text.Segments

namespace CrashReporter

/-! ### NUL -/

namespace Utf8

theorem zero_not_mem_utf8EncodeChar {character : Char} (other : character ≠ nul) :
    0 ∉ String.utf8EncodeChar character := by
  have positive : character.toNat ≠ 0 := fun zero => other (Char.toNat_inj.mp zero)
  have numbers := (utf8EncodeChar_eq_iff character _).mp rfl
  intro member
  have zero : 0 ∈ spelling character.toNat := numbers ▸ List.mem_map_of_mem member
  unfold spelling at zero
  split_ifs at zero <;> simp at zero <;> omega

/-- Octets hold a NUL only for a NUL. -/
theorem zero_not_mem_encode {characters : List Char} (free : nul ∉ characters) : 0 ∉ encode characters := by
  intro member
  obtain ⟨character, listed, spelled⟩ := List.mem_flatMap.mp member
  exact zero_not_mem_utf8EncodeChar (fun same => free (same ▸ listed)) spelled

theorem encode_ne_nil {characters : List Char} (filled : characters ≠ []) : encode characters ≠ [] := by
  obtain ⟨first, rest, rfl⟩ := List.exists_cons_of_ne_nil filled
  rw [encode_cons]
  exact List.append_ne_nil_of_left_ne_nil String.utf8EncodeChar_ne_nil _

end Utf8

namespace Text

theorem zero_not_mem_cString (octets : List UInt8) : 0 ∉ cString octets := by
  intro member
  have kept := List.mem_takeWhile_imp member
  simp at kept

/-- A C string ends at the first NUL of the characters that it spells. -/
theorem cString_encode (characters : List Char) (rest : List UInt8) :
    cString (Utf8.encode characters ++ 0 :: rest) = Utf8.encode (beforeNul characters) := by
  induction characters with
  | nil => rfl
  | cons character characters ih =>
    by_cases last : character = nul
    · subst last
      rfl
    · have kept : ∀ octet ∈ String.utf8EncodeChar character, decide (octet ≠ 0) = true := by
        intro octet member
        simpa using fun zero : octet = 0 => Utf8.zero_not_mem_utf8EncodeChar last (zero ▸ member)
      have further : beforeNul (character :: characters) = character :: beforeNul characters :=
        List.takeWhile_cons_of_pos (by simpa using last)
      rw [Utf8.encode_cons, List.append_assoc, further, Utf8.encode_cons, ← ih]
      exact List.takeWhile_append_of_pos kept

/-! ### Constructors -/

theorem ofOctets?_eq (octets : List UInt8) :
    ofOctets? octets = ofString? (String.ofList (Utf8.decodeLossy (cString octets))) := by
  rw [ofString?, String.toList_ofList]
  rfl

theorem beforeNul_decodeLossy (octets : List UInt8) :
    beforeNul (Utf8.decodeLossy (cString octets)) = Utf8.decodeLossy (cString octets) :=
  beforeNul_of_nul_free (Utf8.nul_not_mem_decodeLossy (zero_not_mem_cString octets))

/-- A text of octets spells what is read of them. -/
theorem ofOctets?_eq_some_iff (octets : List UInt8) (text : Text) :
    ofOctets? octets = some text ↔ text.content.toList = Utf8.decodeLossy (cString octets) := by
  rw [ofOctets?_eq, ofString?_eq_some_iff, String.toList_ofList, beforeNul_decodeLossy]

/-- Only an empty C string makes no text. -/
theorem ofOctets?_eq_none_iff (octets : List UInt8) : ofOctets? octets = none ↔ cString octets = [] := by
  rw [ofOctets?_eq, ofString?_eq_none_iff, String.toList_ofList, beforeNul_decodeLossy, Utf8.decodeLossy_eq_nil_iff]

/-- Only the empty string and strings led by a NUL make no text. -/
theorem ofString?_eq_none_iff_head (value : String) :
    ofString? value = none ↔ value = "" ∨ value.toList.head? = some nul := by
  rw [ofString?_eq_none_iff, ← String.toList_eq_nil_iff]
  cases value.toList with
  | nil => simp [beforeNul]
  | cons character rest => simp [beforeNul, List.takeWhile_cons]

/-- A text of a string is all of it, or what a NUL ends. -/
theorem ofString?_eq_some_iff_append (value : String) (text : Text) :
    ofString? value = some text ↔
      value.toList = text.content.toList ∨ ∃ rest, value.toList = text.content.toList ++ nul :: rest := by
  rw [ofString?_eq_some_iff]
  constructor
  · intro same
    have whole : beforeNul value.toList ++ value.toList.dropWhile (· ≠ nul) = value.toList :=
      List.takeWhile_append_dropWhile
    rw [← same] at whole
    cases left : value.toList.dropWhile (· ≠ nul) with
    | nil =>
      rw [left, List.append_nil] at whole
      exact .inl whole.symm
    | cons character rest =>
      have stopped := List.head?_dropWhile_not (· ≠ nul) value.toList
      rw [left] at stopped whole
      have last : character = nul := by simpa using stopped
      exact .inr ⟨rest, by rw [← whole, last]⟩
  · rintro (same | ⟨rest, same⟩)
    · rw [same, beforeNul_of_nul_free text.nul_free]
    · have kept : ∀ character ∈ text.content.toList, decide (character ≠ nul) = true := by
        intro character member
        simpa using fun last : character = nul => text.nul_free (last ▸ member)
      rw [same, beforeNul, List.takeWhile_append_of_pos kept]
      simp

/-- A text is the string that it is made of, unless a NUL ended it. -/
theorem content_eq_iff {value : String} {text : Text} (made : ofString? value = some text) :
    text.content = value ↔ nul ∉ value.toList := by
  rw [ofString?_eq_some_iff] at made
  constructor
  · rintro rfl
    exact text.nul_free
  · intro free
    rw [beforeNul_of_nul_free free] at made
    exact String.toList_inj.mp made

/-- Handed over as octets, a string makes the same text. -/
theorem ofOctets?_encode (value : String) (rest : List UInt8) :
    ofOctets? (Utf8.encode value.toList ++ 0 :: rest) = ofString? value := by
  have cut : beforeNul (beforeNul value.toList) = beforeNul value.toList :=
    beforeNul_of_nul_free (nul_not_mem_beforeNul value.toList)
  unfold ofOctets? ofString? ofCharacters?
  rw [cString_encode, Utf8.decodeLossy_encode]
  simp only [cut]

/-- Handed over as JSON, a string makes the same text. -/
theorem fromText?_render (value : String) :
    Decode.fromText? (fun _ => Decode.text?) (Json.string value).render = ofString? value := by
  have tree : Json.Node.parse? (Json.string value).render = some (Json.string value).toNode :=
    Json.parse?_render trivial
  rw [Decode.fromText?, tree, Option.bind_some, Decode.text?, Decode.string?_toNode, Option.bind_some]

/-! ### The form -/

/-- **The one form of a text.**

Of octets, only those led by a NUL make no text; others make one of the octets before the first NUL, in which one
replacement character stands for every ill-formed piece, so that well-formed octets are kept as they are. Of strings,
only the empty one and those led by a NUL make no text; others make one of what stands before the first NUL, which is
the whole string if it has none. The same string makes the same text however it is handed over.

Every text is stored as octets that spell something without a NUL, and a single NUL. It is made again of its content, of
its address whatever follows there, and of its JSON. -/
theorem normal_form :
    (∀ octets, ofOctets? octets = none ↔ cString octets = []) ∧
    (∀ octets text, ofOctets? octets = some text →
      (∃ pieces, Utf8.Segments (cString octets) pieces ∧
        text.stored = Utf8.encode (pieces.map (·.getD Utf8.replacement)) ++ [0]) ∧
      ((∃ characters, cString octets = Utf8.encode characters) → text.stored = cString octets ++ [0])) ∧
    (∀ value, ofString? value = none ↔ value = "" ∨ value.toList.head? = some nul) ∧
    (∀ value text, ofString? value = some text →
      (value.toList = text.content.toList ∨ ∃ rest, value.toList = text.content.toList ++ nul :: rest) ∧
      (text.content = value ↔ nul ∉ value.toList)) ∧
    (∀ value rest, ofOption? (some value) = ofString? value ∧
      ofOctets? (Utf8.encode value.toList ++ 0 :: rest) = ofString? value ∧
      Decode.fromText? (fun _ => Decode.text?) (Json.string value).render = ofString? value) ∧
    (∀ text : Text,
      (∃ octets, text.stored = octets ++ [0] ∧ octets = Utf8.encode text.content.toList ∧ octets ≠ [] ∧ 0 ∉ octets) ∧
      ofString? text.content = some text ∧
      (∀ rest, ofOctets? (text.stored ++ rest) = some text) ∧
      Decode.fromText? (fun _ => Decode.text?) (Json.ofText text).render = some text) := by
  refine ⟨ofOctets?_eq_none_iff, ?_, ofString?_eq_none_iff_head, ?_, ?_, ?_⟩
  · intro octets text made
    rw [ofOctets?_eq_some_iff] at made
    have stored : text.stored = Utf8.encode (Utf8.decodeLossy (cString octets)) ++ [0] := by rw [stored, made]
    refine ⟨⟨Utf8.scan (cString octets), (Utf8.segments_scanFrom _).1, stored⟩, ?_⟩
    rintro ⟨characters, spelled⟩
    rw [stored, spelled, Utf8.decodeLossy_encode]
  · exact fun value text made => ⟨(ofString?_eq_some_iff_append value text).mp made, content_eq_iff made⟩
  · exact fun value rest => ⟨rfl, ofOctets?_encode value rest, fromText?_render value⟩
  · intro text
    have again : ofString? text.content = some text := ofString?_content text
    have filled := Utf8.encode_ne_nil text.nonempty
    refine ⟨⟨_, rfl, rfl, filled, Utf8.zero_not_mem_encode text.nul_free⟩, again, fun rest => ?_, ?_⟩
    · rw [stored, List.append_assoc, List.singleton_append, ofOctets?_encode, again]
    · exact (fromText?_render text.content).trans again

/-- Two octets of three stand for one replacement character, as does a lone one; what follows a NUL is not read. -/
theorem normal_form_broken :
    ∃ text, ofOctets? [0x61, 0xE2, 0x82, 0x62, 0xFF, 0, 0x63] = some text ∧
      text.stored = [0x61, 0xEF, 0xBF, 0xBD, 0x62, 0xEF, 0xBF, 0xBD, 0] ∧
      ofOctets? (text.stored ++ [0x64]) = some text ∧
      ∃ main, ofString? "main\x00activity" = some main ∧ main.content ≠ "main\x00activity" := by
  obtain ⟨text, made⟩ : ∃ text, ofOctets? [0x61, 0xE2, 0x82, 0x62, 0xFF, 0, 0x63] = some text :=
    Option.ne_none_iff_exists'.mp fun nothing => absurd ((normal_form.1 _).mp nothing) (by decide)
  obtain ⟨⟨pieces, cut, stored⟩, -⟩ := normal_form.2.1 _ text made
  rw [← (Utf8.segments_iff _ pieces).mp cut] at stored
  obtain ⟨main, begun⟩ : ∃ main, ofString? "main\x00activity" = some main :=
    Option.ne_none_iff_exists'.mp fun nothing => absurd ((normal_form.2.2.1 _).mp nothing) (by decide)
  have cutOff := (normal_form.2.2.2.1 _ main begun).2.mp
  exact ⟨text, made, stored.trans (by decide), (normal_form.2.2.2.2.2 text).2.2.1 [0x64], main, begun,
    fun same => absurd (cutOff same) (by decide)⟩

end Text

end CrashReporter
