import Mathlib
import DeviceRegistry.Json.Outline
import DeviceRegistry.Json.Value
import DeviceRegistry.Proofs.Identifiers
import DeviceRegistry.Proofs.Utf8
/-!
# Texts in quotes

A text is read back from its quotes. Each character leaves parts that are its own: the
bytes of its encoding, or for a rare control character the number of an escape. No byte
of a character that stands for itself ends the text or begins an escape.
-/

namespace DeviceRegistry

namespace Text.Utf8

theorem encodeChars_append (characters others : List Char) :
    encodeChars (characters ++ others) = encodeChars characters ++ encodeChars others :=
  List.flatMap_append

theorem encodeChars_cons (first : Char) (rest : List Char) :
    encodeChars (first :: rest) = encodeChar first ++ encodeChars rest :=
  List.flatMap_cons

/-- A byte of a character outside ASCII is outside ASCII too. -/
theorem le_of_mem_encodeChar {character : Char} {byte : UInt8} (wide : 0x80 ≤ character.toNat)
    (member : byte ∈ encodeChar character) : 0x80 ≤ byte.toNat := by
  rcases toNat_isScalar character with ⟨inUnicode, -⟩
  unfold encodeChar at member
  generalize character.toNat = code at *
  simp only at member
  split at member
  · omega
  · split at member
    · simp only [List.mem_cons, List.not_mem_nil, or_false] at member
      rcases member with rfl | rfl <;> rw [toNat_ofNat_of_small (by omega)] <;> omega
    · split at member
      · simp only [List.mem_cons, List.not_mem_nil, or_false] at member
        rcases member with rfl | rfl | rfl <;> rw [toNat_ofNat_of_small (by omega)] <;> omega
      · simp only [List.mem_cons, List.not_mem_nil, or_false] at member
        rcases member with rfl | rfl | rfl | rfl <;> rw [toNat_ofNat_of_small (by omega)] <;> omega

end Text.Utf8

namespace Json.Outline

open Text

/-- Whether a byte stands for itself within a text. -/
def IsPlain (byte : UInt8) : Prop :=
  byte ≠ 0x22 ∧ byte ≠ 0x5c ∧ ¬byte < 0x20

theorem scanUnits_plain {byte : UInt8} (plain : IsPlain byte) (rest : Bytes) :
    scanUnits (byte :: rest) =
      (scanUnits rest).map fun (units, after) => (.byte byte :: units, after) := by
  rcases plain with ⟨noQuote, noEscape, noControl⟩
  rw [scanUnits.eq_def]
  simp only [noQuote, noEscape, noControl, if_false]
  rcases scanUnits rest with _ | ⟨units, after⟩ <;> rfl

theorem scanUnits_plain_append {bytes : Bytes} (plain : ∀ byte ∈ bytes, IsPlain byte)
    (rest : Bytes) :
    scanUnits (bytes ++ rest) =
      (scanUnits rest).map fun (units, after) => (bytes.map .byte ++ units, after) := by
  induction bytes with
  | nil => simp
  | cons first others hypothesis =>
    have plainOthers : ∀ byte ∈ others, IsPlain byte := by
      intro byte member
      exact plain byte (List.mem_cons_of_mem _ member)
    rw [List.cons_append, scanUnits_plain (plain first List.mem_cons_self),
      hypothesis plainOthers, Option.map_map]
    rfl

theorem isPlain_of_mem_encodeChar {character : Char} {byte : UInt8}
    (printable : 0x20 ≤ character.toNat) (noQuote : character.toNat ≠ 0x22)
    (noEscape : character.toNat ≠ 0x5c) (member : byte ∈ Utf8.encodeChar character) :
    IsPlain byte := by
  have plain : byte.toNat ≠ 0x22 ∧ byte.toNat ≠ 0x5c ∧ 0x20 ≤ byte.toNat := by
    by_cases wide : 0x80 ≤ character.toNat
    · have above := Utf8.le_of_mem_encodeChar wide member
      omega
    · have narrow : character.toNat < 0x80 := by omega
      simp only [Utf8.encodeChar, narrow, if_true, List.mem_singleton] at member
      rw [member, Utf8.toNat_ofNat_of_small (by omega)]
      omega
  simpa [IsPlain, UInt8.lt_iff_toNat_lt, ← UInt8.toNat_inj] using plain

theorem scanUnits_letter {letter escaped : UInt8} (short : escapedByte? letter = some escaped)
    (noCode : letter ≠ 0x75) (rest : Bytes) :
    scanUnits (0x5c :: letter :: rest) =
      (scanUnits rest).map fun (units, after) => (.byte escaped :: units, after) := by
  rw [scanUnits.eq_def]
  simp only [noCode, short]
  rcases scanUnits rest with _ | ⟨units, after⟩ <;> rfl

theorem scanUnits_code {first second third fourth : UInt8} {code : Nat}
    (known : hexCode? first second third fourth = some code) (rest : Bytes) :
    scanUnits (0x5c :: 0x75 :: first :: second :: third :: fourth :: rest) =
      (scanUnits rest).map fun (units, after) => (.escape code :: units, after) := by
  rw [scanUnits.eq_def]
  simp only [known]
  rcases scanUnits rest with _ | ⟨units, after⟩ <;> rfl

/-- The numbers of the characters that are written as a backslash and one letter. -/
def lettered : List Nat :=
  [0x22, 0x5c, 0x08, 0x09, 0x0a, 0x0c, 0x0d]

/-- Whether a character is written by its number. -/
def isNumbered (character : Char) : Bool :=
  character.toNat < 0x20 && !lettered.contains character.toNat

/-- The parts that a character within quotes is read as. -/
def partsOf (character : Char) : List Unit :=
  if isNumbered character then [.escape character.toNat]
  else (Utf8.encodeChar character).map .byte

variable {character : Char}

theorem scanUnits_lettered (short : character.toNat ∈ lettered) (rest : Bytes) :
    scanUnits (Utf8.encodeChars (escapeChar character) ++ rest) =
      (scanUnits rest).map fun (units, after) => (partsOf character ++ units, after) := by
  have whole : character = Char.ofNat character.toNat := (Char.ofNat_toNat character).symm
  simp only [lettered, List.mem_cons, List.not_mem_nil, or_false] at short
  rcases short with same | same | same | same | same | same | same
  all_goals
    rw [whole, same]
    exact scanUnits_letter rfl (by decide) rest

theorem scanUnits_printable (long : character.toNat ∉ lettered)
    (printable : 0x20 ≤ character.toNat) (rest : Bytes) :
    scanUnits (Utf8.encodeChars (escapeChar character) ++ rest) =
      (scanUnits rest).map fun (units, after) => (partsOf character ++ units, after) := by
  simp only [lettered, List.mem_cons, List.not_mem_nil, or_false, not_or] at long
  rcases long with ⟨noQuote, noEscape, -⟩
  have itself : escapeChar character = [character] := by
    simp only [escapeChar, noQuote, noEscape, printable, if_true, if_false]
  have unnumbered : isNumbered character = false := by
    simp [isNumbered, printable]
  rw [itself, partsOf, unnumbered, Utf8.encodeChars, List.flatMap_singleton]
  apply scanUnits_plain_append
  intro byte member
  exact isPlain_of_mem_encodeChar printable noQuote noEscape member

theorem scanUnits_numbered (long : character.toNat ∉ lettered)
    (control : character.toNat < 0x20) (rest : Bytes) :
    scanUnits (Utf8.encodeChars (escapeChar character) ++ rest) =
      (scanUnits rest).map fun (units, after) => (partsOf character ++ units, after) := by
  have numbered : isNumbered character = true := by
    simp [isNumbered, control, long]
  have highSmall : character.toNat / 16 < 16 := by omega
  have lowSmall : character.toNat % 16 < 16 := by omega
  rcases Hex.encodeChar_digit highSmall with ⟨high, writtenHigh, valueHigh⟩
  rcases Hex.encodeChar_digit lowSmall with ⟨low, writtenLow, valueLow⟩
  have written : Utf8.encodeChars (escapeChar character) =
      [0x5c, 0x75, 0x30, 0x30, high, low] := by
    have unprintable : ¬0x20 ≤ character.toNat := by omega
    simp only [lettered, List.mem_cons, List.not_mem_nil, or_false, not_or] at long
    simp only [escapeChar, long, unprintable, if_false, Utf8.encodeChars, List.flatMap_cons,
      List.flatMap_nil, writtenHigh, writtenLow]
    rfl
  have known : hexCode? 0x30 0x30 high low = some character.toNat := by
    have zero : Hex.value? 0x30 = some 0 := rfl
    have whole : ((0 * 16 + 0) * 16 + character.toNat / 16) * 16 + character.toNat % 16 =
        character.toNat := by omega
    simp only [hexCode?, zero, valueHigh, valueLow]
    exact congrArg some whole
  rw [written, partsOf, numbered]
  exact scanUnits_code known rest

theorem scanUnits_escapeChar (character : Char) (rest : Bytes) :
    scanUnits (Utf8.encodeChars (escapeChar character) ++ rest) =
      (scanUnits rest).map fun (units, after) => (partsOf character ++ units, after) := by
  by_cases short : character.toNat ∈ lettered
  · exact scanUnits_lettered short rest
  · by_cases printable : 0x20 ≤ character.toNat
    · exact scanUnits_printable short printable rest
    · exact scanUnits_numbered short (by omega) rest

theorem unitsBytes_map_byte (bytes : Bytes) (units : List Unit) :
    unitsBytes (bytes.map .byte ++ units) = (unitsBytes units).map (bytes ++ ·) := by
  induction bytes with
  | nil => simp
  | cons first rest hypothesis =>
    rw [List.map_cons, List.cons_append, unitsBytes, hypothesis, Option.map_map]
    rfl

theorem unitsBytes_partsOf (character : Char) (units : List Unit) :
    unitsBytes (partsOf character ++ units) =
      (unitsBytes units).map (Utf8.encodeChar character ++ ·) := by
  cases numbered : isNumbered character with
  | true =>
    have control : character.toNat < 0x20 := by
      simp only [isNumbered, Bool.and_eq_true, decide_eq_true_eq] at numbered
      exact numbered.1
    have noHigh : isHighHalf character.toNat = false := by
      simp only [isHighHalf, Bool.and_eq_false_iff, decide_eq_false_iff_not]
      omega
    have noLow : isLowHalf character.toNat = false := by
      simp only [isLowHalf, Bool.and_eq_false_iff, decide_eq_false_iff_not]
      omega
    rw [partsOf, numbered, if_pos rfl, List.singleton_append, unitsBytes.eq_def]
    simp only [noHigh, noLow, Bool.false_eq_true, if_false, Char.ofNat_toNat]
  | false =>
    rw [partsOf, numbered, if_neg Bool.false_ne_true, unitsBytes_map_byte]

theorem scanUnits_quoted (characters : List Char) (rest : Bytes) :
    scanUnits (Utf8.encodeChars (characters.flatMap escapeChar) ++ 0x22 :: rest) =
      some (characters.flatMap partsOf, rest) := by
  induction characters with
  | nil =>
    change scanUnits (0x22 :: rest) = _
    rw [scanUnits.eq_def]
    rfl
  | cons first others hypothesis =>
    rw [List.flatMap_cons, Utf8.encodeChars_append, List.append_assoc, scanUnits_escapeChar,
      hypothesis]
    rfl

theorem unitsBytes_quoted (characters : List Char) :
    unitsBytes (characters.flatMap partsOf) = some (Utf8.encodeChars characters) := by
  induction characters with
  | nil => rfl
  | cons first others hypothesis =>
    rw [List.flatMap_cons, unitsBytes_partsOf, hypothesis]
    rfl

/-- A text is read back from its quotes, whatever characters it has. -/
theorem scanText_quoted (content : String) (rest : Bytes) :
    scanText (Utf8.encodeChars (content.toList.flatMap escapeChar) ++ 0x22 :: rest) =
      some (some content, rest) := by
  have decoded : unitsText (content.toList.flatMap partsOf) = some content := by
    have same := Utf8.decode_encode content
    rw [Utf8.encode] at same
    simp only [unitsText, unitsBytes_quoted, Option.bind_eq_bind, Option.bind_some, same]
    rfl
  simp only [scanText, scanUnits_quoted, Option.bind_eq_bind, Option.bind_some, decoded]
  rfl

end Json.Outline

end DeviceRegistry
