import Mathlib
import DeviceRegistry.Proofs.Identifiers
import DeviceRegistry.Proofs.Outcomes
import DeviceRegistry.Proofs.Utf8
/-!
# The spellings of an address

A text names an address if it is a digit pair for each byte, in digits of either case, with
blanks around and at most one mark in front of the digits. The blanks are outside the mark,
and nothing else may stand anywhere.

Reading works on bytes, while a spelling is made of characters. No other bytes can pass for a
digit: what was decoded comes from bytes that are digits, these bytes are the bytes of a text
of digits, and a text is determined by its bytes. So nothing has to be said about characters
of several bytes. No digit is blank and none is the `x` of the mark, so blanks and mark end
where the digits begin.
-/

namespace DeviceRegistry

namespace Text

namespace Hex

/-! ## Digits -/

/-- The digits of both cases, with their values. -/
def digitValues : List (Char × Nat) :=
  [('0', 0), ('1', 1), ('2', 2), ('3', 3), ('4', 4), ('5', 5), ('6', 6), ('7', 7), ('8', 8),
    ('9', 9), ('a', 10), ('b', 11), ('c', 12), ('d', 13), ('e', 14), ('f', 15), ('A', 10),
    ('B', 11), ('C', 12), ('D', 13), ('E', 14), ('F', 15)]

/-- A text of two digits for each byte, the high half first. -/
inductive Spells : List Char → Bytes → Prop
  | nil : Spells [] []
  | pair {high low : Char} {highHalf lowHalf : Nat} {digits : List Char} {bytes : Bytes}
      (highDigit : (high, highHalf) ∈ digitValues) (lowDigit : (low, lowHalf) ∈ digitValues)
      (others : Spells digits bytes) :
      Spells (high :: low :: digits) (UInt8.ofNat (16 * highHalf + lowHalf) :: bytes)

theorem encodeChar_of_digit : ∀ entry ∈ digitValues,
    ∃ byte, Utf8.encodeChar entry.1 = [byte] ∧ value? byte = some entry.2 := by
  have values : ∀ entry ∈ digitValues,
      (Utf8.encodeChar entry.1).map value? = [some entry.2] := by decide
  intro entry member
  rcases List.map_eq_singleton_iff.mp (values entry member) with ⟨byte, encoded, value⟩
  exact ⟨byte, encoded, value⟩

/-- Each byte that has a value is a digit of that value. -/
theorem digit_of_value? {byte : UInt8} {half : Nat} (value : value? byte = some half) :
    ∃ character, (character, half) ∈ digitValues ∧ Utf8.encodeChar character = [byte] := by
  have digits : ∀ code < 256, ∀ half ∈ value? (UInt8.ofNat code),
      (Char.ofNat code, half) ∈ digitValues ∧
        Utf8.encodeChar (Char.ofNat code) = [UInt8.ofNat code] := by
    decide +kernel
  have found := digits byte.toNat byte.toNat_lt half (by simpa using value)
  rw [UInt8.ofNat_toNat] at found
  exact ⟨Char.ofNat byte.toNat, found⟩

theorem valueAt_eq_ok {position : Nat} {byte : UInt8} {half : Nat} :
    valueAt position byte = .ok half ↔ value? byte = some half := by
  rw [valueAt]
  cases value? byte <;> simp

theorem plain_of_digit : ∀ entry ∈ digitValues, isBlank entry.1 = false ∧ entry.1 ≠ 'x' := by
  decide

/-! ## Texts of digits -/

variable {text : Bytes} {digits : List Char} {bytes : Bytes}

theorem Spells.plain (spells : Spells digits bytes) :
    ∀ character ∈ digits, isBlank character = false ∧ character ≠ 'x' := by
  induction spells with
  | nil => simp
  | pair highDigit lowDigit others hypothesis =>
    intro character member
    rcases List.mem_cons.mp member with rfl | member
    · exact plain_of_digit _ highDigit
    · rcases List.mem_cons.mp member with rfl | member
      · exact plain_of_digit _ lowDigit
      · exact hypothesis character member

theorem Spells.decodeFrom (spells : Spells digits bytes) (position : Nat) :
    (Utf8.encodeChars digits).length % 2 = 0 ∧
      Hex.decodeFrom position (Utf8.encodeChars digits) = .ok bytes := by
  induction spells generalizing position with
  | nil => exact ⟨rfl, rfl⟩
  | pair highDigit lowDigit others hypothesis =>
    rcases encodeChar_of_digit _ highDigit with ⟨high, highEncoded, highValue⟩
    rcases encodeChar_of_digit _ lowDigit with ⟨low, lowEncoded, lowValue⟩
    rcases hypothesis (position + 2) with ⟨even, decoded⟩
    simp only [Utf8.encodeChars, List.flatMap_cons, highEncoded, lowEncoded] at even decoded ⊢
    refine ⟨?_, ?_⟩
    · simp only [List.length_append, List.length_singleton]
      omega
    · simp only [List.singleton_append, Hex.decodeFrom, valueAt, highValue, lowValue, decoded]
      rfl

/-- What was decoded was a text of digits. -/
theorem exists_spells_of_decodeFrom {position : Nat} (even : text.length % 2 = 0)
    (decoded : decodeFrom position text = .ok bytes) :
    ∃ digits, Spells digits bytes ∧ Utf8.encodeChars digits = text := by
  induction position, text using decodeFrom.induct generalizing bytes with
  | case1 position high low rest hypothesis =>
    rw [Hex.decodeFrom] at decoded
    rcases bind_eq_ok.mp decoded with ⟨highHalf, highValue, decoded⟩
    rcases bind_eq_ok.mp decoded with ⟨lowHalf, lowValue, decoded⟩
    rcases bind_eq_ok.mp decoded with ⟨others, decodedRest, decoded⟩
    cases decoded
    have evenRest : rest.length % 2 = 0 := by
      simp only [List.length_cons] at even
      omega
    rcases hypothesis evenRest decodedRest with ⟨digits, spells, encoded⟩
    rcases digit_of_value? (valueAt_eq_ok.mp highValue) with ⟨highDigit, highListed, highEncoded⟩
    rcases digit_of_value? (valueAt_eq_ok.mp lowValue) with ⟨lowDigit, lowListed, lowEncoded⟩
    refine ⟨highDigit :: lowDigit :: digits, .pair highListed lowListed spells, ?_⟩
    rw [Utf8.encodeChars, List.flatMap_cons, List.flatMap_cons, highEncoded, lowEncoded,
      ← Utf8.encodeChars, encoded]
    rfl
  | case2 text position short =>
    -- Fewer than two bytes are left, and an even number of them.
    cases text with
    | nil =>
      cases decoded
      exact ⟨[], .nil, rfl⟩
    | cons first rest =>
      cases rest with
      | nil => simp at even
      | cons second rest => exact absurd rfl (short first second rest)

/-- A text is decoded if it is made of digits, and then to the bytes that it spells. -/
theorem decode_eq_ok_iff : decode (Utf8.encodeChars digits) = .ok bytes ↔ Spells digits bytes := by
  constructor
  · intro decoded
    unfold decode at decoded
    split at decoded
    · cases decoded
    · rename_i even
      rcases exists_spells_of_decodeFrom (by omega) decoded with ⟨others, spells, encoded⟩
      rwa [← Utf8.encodeChars_injective encoded]
  · intro spells
    rcases spells.decodeFrom 0 with ⟨even, decoded⟩
    rw [decode, if_neg (by omega), decoded]

end Hex

/-! ## Blanks around a text -/

theorem trim_framed {front core back : List Char} (frontBlank : ∀ c ∈ front, isBlank c = true)
    (backBlank : ∀ c ∈ back, isBlank c = true) (plain : ∀ c ∈ core, isBlank c = false) :
    trim (front ++ core ++ back) = core := by
  have backDropped : back.dropWhile isBlank = [] := List.dropWhile_eq_nil_iff.mpr backBlank
  have reverseBlank : ∀ c ∈ back.reverse, isBlank c = true := by
    simpa using backBlank
  have reversePlain : ∀ c ∈ core.reverse, isBlank c = false := by
    simpa using plain
  rw [trim, List.append_assoc, List.dropWhile_append_of_pos frontBlank]
  cases core with
  | nil => simp [backDropped]
  | cons first rest =>
    rw [List.cons_append, List.dropWhile_cons_of_neg (by simp [plain first List.mem_cons_self]),
      ← List.cons_append, List.reverse_append, List.dropWhile_append_of_pos reverseBlank,
      dropWhile_isBlank_of_plain reversePlain, List.reverse_reverse]

/-- What trimming takes away is blank. -/
theorem exists_trim (text : List Char) :
    ∃ front back, text = front ++ trim text ++ back ∧ (∀ c ∈ front, isBlank c = true) ∧
      ∀ c ∈ back, isBlank c = true := by
  refine ⟨text.takeWhile isBlank,
    ((text.dropWhile isBlank).reverse.takeWhile isBlank).reverse, ?_, ?_, ?_⟩
  · rw [trim, List.append_assoc, ← List.reverse_append, List.takeWhile_append_dropWhile,
      List.reverse_reverse, List.takeWhile_append_dropWhile]
  · intro c member
    exact List.mem_takeWhile_imp member
  · intro c member
    exact List.mem_takeWhile_imp (List.mem_reverse.mp member)

end Text

namespace Address

open Text

/-! ## The grammar -/

/-- A text that is `core` but for a mark in front of it and blanks around both. -/
def Frames (text : String) (core : List Char) : Prop :=
  ∃ front mark back, text.toList = front ++ mark ++ core ++ back ∧
    (∀ c ∈ front, isBlank c = true) ∧ (mark = [] ∨ mark = ['0', 'x']) ∧
    ∀ c ∈ back, isBlank c = true

/-- A text that names an address. -/
def Spelling (text : String) (address : Address) : Prop :=
  ∃ digits, Frames text digits ∧ digits ≠ [] ∧ Hex.Spells digits address.bytes

variable {text other : String} {address : Address} {core : List Char}

/-! ## Reading -/

/-- What is left of a text without the blanks around it and without its mark. -/
def stripped (text : String) : List Char :=
  withoutMark (trim text.toList)

theorem frames_stripped (text : String) : Frames text (stripped text) := by
  rcases exists_trim text.toList with ⟨front, back, parts, frontBlank, backBlank⟩
  unfold stripped
  generalize trim text.toList = trimmed at parts ⊢
  unfold withoutMark
  split
  · rename_i rest
    exact ⟨front, ['0', 'x'], back, by simpa using parts, frontBlank, Or.inr rfl, backBlank⟩
  · exact ⟨front, [], back, by simpa using parts, frontBlank, Or.inl rfl, backBlank⟩

theorem Frames.stripped_eq (frames : Frames text core)
    (plain : ∀ c ∈ core, isBlank c = false ∧ c ≠ 'x') : stripped text = core := by
  rcases frames with ⟨front, mark, back, parts, frontBlank, rfl | rfl, backBlank⟩
  · rw [stripped, parts, List.append_nil,
      trim_framed frontBlank backBlank fun c member => (plain c member).1]
    exact withoutMark_of_plain fun c member => (plain c member).2
  · have markedPlain : ∀ c ∈ ['0', 'x'] ++ core, isBlank c = false := by
      rw [List.cons_append, List.singleton_append, List.forall_mem_cons, List.forall_mem_cons]
      exact ⟨by decide, by decide, fun c member => (plain c member).1⟩
    rw [stripped, parts, List.append_assoc front, trim_framed frontBlank backBlank markedPlain]
    rfl

theorem ofText_of_noDigits (noDigits : stripped text = []) :
    ofText text = .error .noDigits := by
  rw [stripped] at noDigits
  simp only [ofText, noDigits]

theorem ofText_of_digits (someDigits : stripped text ≠ []) :
    ofText text =
      match Hex.decode (Utf8.encodeChars (stripped text)) with
      | .ok bytes => .ok ⟨bytes⟩
      | .error cause => .error (.notHex cause) := by
  rw [stripped] at someDigits ⊢
  unfold ofText
  split
  · rename_i noDigits
    exact absurd noDigits someDigits
  · rfl

theorem ofText_eq_ok_iff : ofText text = .ok address ↔ Spelling text address := by
  constructor
  · intro read
    by_cases noDigits : stripped text = []
    · rw [ofText_of_noDigits noDigits] at read
      cases read
    · refine ⟨stripped text, frames_stripped text, noDigits, Hex.decode_eq_ok_iff.mp ?_⟩
      rw [ofText_of_digits noDigits] at read
      split at read
      · rename_i bytes decoded
        cases read
        exact decoded
      · cases read
  · rintro ⟨digits, frames, someDigits, spells⟩
    have same := frames.stripped_eq spells.plain
    rw [ofText_of_digits (by rwa [same]), same, Hex.decode_eq_ok_iff.mpr spells]

theorem ofText_eq_noDigits_iff : ofText text = .error .noDigits ↔ Frames text [] := by
  constructor
  · intro read
    by_cases noDigits : stripped text = []
    · rw [← noDigits]
      exact frames_stripped text
    · rw [ofText_of_digits noDigits] at read
      split at read <;> cases read
  · intro frames
    exact ofText_of_noDigits (frames.stripped_eq (by simp))

theorem ofText_eq_notHex_iff :
    (∃ cause, ofText text = .error (.notHex cause)) ↔
      ¬Frames text [] ∧ ∀ address, ¬Spelling text address := by
  simp only [← ofText_eq_noDigits_iff, ← ofText_eq_ok_iff]
  rcases ofText text with (_ | cause) | address <;> simp

/-- Texts are read as their grammar says, and written addresses are among them. -/
theorem ofText_grammar (text : String) :
    (∀ address, ofText text = .ok address ↔ Spelling text address) ∧
    (ofText text = .error .noDigits ↔ Frames text []) ∧
    ((∃ cause, ofText text = .error (.notHex cause)) ↔
      ¬Frames text [] ∧ ∀ address, ¬Spelling text address) ∧
    (∀ other address, Spelling text address → Spelling other address →
      ofText text = ofText other) ∧
    (∀ address : Address, address ≠ empty → ofText address.text = .ok address) ∧
    ofDocument text = (if text = "" then .ok empty else ofText text) ∧
    ∀ address : Address, ofDocument address.text = .ok address := by
  refine ⟨fun _ => ofText_eq_ok_iff, ofText_eq_noDigits_iff, ofText_eq_notHex_iff, ?_, ?_, ?_,
    ofDocument_text⟩
  · intro other address spelling otherSpelling
    rw [ofText_eq_ok_iff.mpr spelling, ofText_eq_ok_iff.mpr otherSpelling]
  · intro address someBytes
    exact ofText_text someBytes
  · simp [ofDocument]

/-- Blanks outside ASCII, a mark and digits of both cases do not count. -/
theorem ofText_grammar_liberal :
    Spelling "\u3000 0xDEad\u00a0" ⟨[0xde, 0xad]⟩ ∧ Spelling "dEAD" ⟨[0xde, 0xad]⟩ ∧
    ofText "\u3000 0xDEad\u00a0" = ofText "dEAD" ∧ (⟨[0xde, 0xad]⟩ : Address) ≠ empty ∧
    ofText (⟨[0xde, 0xad]⟩ : Address).text = .ok ⟨[0xde, 0xad]⟩ := by
  rcases ofText_grammar "\u3000 0xDEad\u00a0" with ⟨read, -, -, same, written, -⟩
  have spelling : Spelling "\u3000 0xDEad\u00a0" ⟨[0xde, 0xad]⟩ :=
    (read _).mp (by decide +kernel)
  have otherSpelling : Spelling "dEAD" ⟨[0xde, 0xad]⟩ :=
    ofText_eq_ok_iff.mp (by decide +kernel)
  have someBytes : (⟨[0xde, 0xad]⟩ : Address) ≠ empty := by decide
  exact ⟨spelling, otherSpelling, same _ _ spelling otherSpelling, someBytes, written _ someBytes⟩

end Address

end DeviceRegistry
