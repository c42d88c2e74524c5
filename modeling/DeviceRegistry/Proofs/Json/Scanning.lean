import Mathlib
import DeviceRegistry.Proofs.Json.Numerals
/-!
# Documents are read back

A printed value is scanned to its own outline, in any style that puts nothing but space
between the marks. The scanner takes two steps for each byte at most, so its fuel is
counted in bytes.
-/

namespace DeviceRegistry.Json

open Text

mutual

/-- The outline of a value. -/
def outline : Json → Outline
  | .null => .null
  | .bool value => .bool value
  | .number numeral => .number numeral
  | .text content => .text (some content)
  | .array items => .array (outlines items) true
  | .object members => .object (memberOutlines members) true
termination_by structural value => value

/-- The outlines of items. -/
def outlines : List Json → List Outline
  | [] => []
  | item :: items => outline item :: outlines items
termination_by structural items => items

/-- The names of members and the outlines of their values. -/
def memberOutlines : List (String × Json) → List (Option String × Outline)
  | [] => []
  | member :: members => memberOutline member :: memberOutlines members
termination_by structural members => members

/-- The name of a member and the outline of its value. -/
def memberOutline : String × Json → Option String × Outline
  | (name, value) => (some name, outline value)
termination_by structural member => member

end

mutual

/-- Whether the grammar allows all numerals of a value. -/
def Regular : Json → Prop
  | .number numeral => numeral.Regular
  | .array items => AllRegular items
  | .object members => MembersRegular members
  | _ => True
termination_by structural value => value

/-- Whether all items are regular. -/
def AllRegular : List Json → Prop
  | [] => True
  | item :: items => Regular item ∧ AllRegular items
termination_by structural items => items

/-- Whether the values of all members are regular. -/
def MembersRegular : List (String × Json) → Prop
  | [] => True
  | member :: members => MemberRegular member ∧ MembersRegular members
termination_by structural members => members

/-- Whether the value of a member is regular. -/
def MemberRegular : String × Json → Prop
  | (_, value) => Regular value
termination_by structural member => member

end

/-! ## Space -/

namespace Outline

/-- Whether there is nothing but space. -/
def IsBlank (bytes : Bytes) : Prop :=
  ∀ byte ∈ bytes, isSpace byte = true

variable {blank rest : Bytes}

theorem skipSpace_append (isBlank : IsBlank blank) (rest : Bytes) :
    skipSpace (blank ++ rest) = skipSpace rest :=
  List.dropWhile_append_of_pos isBlank

theorem skipSpace_cons {byte : UInt8} (mark : isSpace byte = false) (rest : Bytes) :
    skipSpace (byte :: rest) = byte :: rest := by
  simp [skipSpace, mark]

theorem scanValue_skipSpace (isBlank : IsBlank blank) (fuel : Nat) (rest : Bytes) :
    scanValue fuel (blank ++ rest) = scanValue fuel rest := by
  cases fuel with
  | zero => rfl
  | succ fuel => simp only [scanValue, skipSpace_append isBlank]

theorem endsNumeral_cons {byte : UInt8}
    (mark : Digit.ofByte? byte = none ∧ byte ≠ 0x2e ∧ byte ≠ 0x65 ∧ byte ≠ 0x45) (rest : Bytes) :
    EndsNumeral (byte :: rest) := by
  intro other member
  cases member
  exact mark

theorem endsNumeral_append (isBlank : IsBlank blank) (ends : EndsNumeral rest) :
    EndsNumeral (blank ++ rest) := by
  cases blank with
  | nil => exact ends
  | cons first others =>
    apply endsNumeral_cons
    have space := isBlank first List.mem_cons_self
    simp only [isSpace, Bool.or_eq_true, decide_eq_true_eq] at space
    rcases space with ((rfl | rfl) | rfl) | rfl <;> decide

end Outline

/-- Whether a style puts nothing but space between the marks. -/
structure Style.Blank (style : Style) : Prop where
  lineBreak : ∀ depth, Outline.IsBlank (Utf8.encodeChars (style.lineBreak depth))
  gap : Outline.IsBlank (Utf8.encodeChars style.gap)

theorem Style.compact_blank : Style.compact.Blank where
  lineBreak _ _ member := absurd member List.not_mem_nil
  gap _ member := absurd member List.not_mem_nil

theorem Style.indented_blank : Style.indented.Blank where
  lineBreak depth byte member := by
    simp only [Style.indented, Utf8.encodeChars, List.flatMap_cons, List.mem_append,
      List.mem_flatMap, List.mem_replicate] at member
    rcases member with newline | ⟨character, ⟨-, rfl⟩, space⟩
    · rw [List.mem_singleton.mp newline]
      rfl
    · rw [List.mem_singleton.mp space]
      rfl
  gap byte member := by
    rw [List.mem_singleton.mp member]
    rfl

/-! ## Steps of the scanner -/

namespace Outline

variable {fuel : Nat} {rest body middle after : Bytes}

theorem scanValue_array_nil (fuel : Nat) (rest : Bytes) :
    scanValue (fuel + 1) (0x5b :: 0x5d :: rest) = some (.array [] true, some rest) := rfl

theorem scanValue_object_nil (fuel : Nat) (rest : Bytes) :
    scanValue (fuel + 1) (0x7b :: 0x7d :: rest) = some (.object [] true, some rest) := rfl

theorem scanValue_array {items : List Outline} (opens : (skipSpace body).head? ≠ some 0x5d)
    (scanned : scanItems fuel body = (items, some rest)) :
    scanValue (fuel + 1) (0x5b :: body) = some (.array items true, some rest) := by
  rw [scanValue, skipSpace_cons rfl]
  simp only [if_true]
  split
  · rename_i first
    simp [first] at opens
  · rw [scanned]
    rfl

theorem scanValue_object {members : List (Option String × Outline)}
    (opens : (skipSpace body).head? ≠ some 0x7d)
    (scanned : scanMembers fuel body = (members, some rest)) :
    scanValue (fuel + 1) (0x7b :: body) = some (.object members true, some rest) := by
  have noBracket : ¬(0x7b : UInt8) = 0x5b := by decide
  rw [scanValue, skipSpace_cons rfl]
  simp only [noBracket, if_true, if_false]
  split
  · rename_i first
    simp [first] at opens
  · rw [scanned]
    rfl

theorem encodeChars_quote (content : String) (rest : Bytes) :
    Utf8.encodeChars (quote content) ++ rest =
      0x22 :: (Utf8.encodeChars (content.toList.flatMap escapeChar) ++ 0x22 :: rest) := by
  rw [quote, Utf8.encodeChars_append, Utf8.encodeChars_cons, List.append_assoc, List.append_assoc]
  rfl

theorem scanValue_text (content : String) (fuel : Nat) (rest : Bytes) :
    scanValue (fuel + 1) (Utf8.encodeChars (quote content) ++ rest) =
      some (.text (some content), some rest) := by
  have noBracket : ¬(0x22 : UInt8) = 0x5b := by decide
  have noBrace : ¬(0x22 : UInt8) = 0x7b := by decide
  rw [encodeChars_quote, scanValue, skipSpace_cons rfl]
  simp only [noBracket, noBrace, if_true, if_false, scanText_quoted]
  rfl

theorem scanItems_last {item : Outline} (scanned : scanValue fuel body = some (item, some after))
    (closes : skipSpace after = 0x5d :: rest) :
    scanItems (fuel + 1) body = ([item], some rest) := by
  rw [scanItems, scanned]
  simp only [closes]

theorem scanItems_more {item : Outline} {items : List Outline}
    (scanned : scanValue fuel body = some (item, some after))
    (continues : skipSpace after = 0x2c :: middle)
    (others : scanItems fuel middle = (items, some rest)) :
    scanItems (fuel + 1) body = (item :: items, some rest) := by
  rw [scanItems, scanned]
  simp only [continues, others]

/-- Whether a name and a colon stand in front of some bytes. -/
def Names (body : Bytes) (name : String) (middle : Bytes) : Prop :=
  ∃ quoted after, skipSpace body = 0x22 :: quoted ∧
    scanText quoted = some (some name, after) ∧ skipSpace after = 0x3a :: middle

theorem scanMembers_last {name : String} {value : Outline} (names : Names body name middle)
    (scanned : scanValue fuel middle = some (value, some after))
    (closes : skipSpace after = 0x7d :: rest) :
    scanMembers (fuel + 1) body = ([(some name, value)], some rest) := by
  rcases names with ⟨quoted, named, opens, text, colon⟩
  simp only [scanMembers, opens, text, colon, scanned, closes]

theorem scanMembers_more {name : String} {value : Outline} {last : Bytes}
    {members : List (Option String × Outline)} (names : Names body name middle)
    (scanned : scanValue fuel middle = some (value, some after))
    (continues : skipSpace after = 0x2c :: last)
    (others : scanMembers fuel last = (members, some rest)) :
    scanMembers (fuel + 1) body = ((some name, value) :: members, some rest) := by
  rcases names with ⟨quoted, named, opens, text, colon⟩
  simp only [scanMembers, opens, text, colon, scanned, continues, others]

/-! ## Words and numerals -/

theorem scanScalar_null (rest : Bytes) :
    scanScalar ([0x6e, 0x75, 0x6c, 0x6c] ++ rest) = some (.null, rest) := by
  simp [scanScalar, afterWord]

theorem scanScalar_true (rest : Bytes) :
    scanScalar ([0x74, 0x72, 0x75, 0x65] ++ rest) = some (.bool true, rest) := by
  simp [scanScalar, afterWord]

theorem scanScalar_false (rest : Bytes) :
    scanScalar ([0x66, 0x61, 0x6c, 0x73, 0x65] ++ rest) = some (.bool false, rest) := by
  simp [scanScalar, afterWord]

theorem scanValue_scalar {byte : UInt8} {outline : Outline} (space : isSpace byte = false)
    (noContainer : byte ≠ 0x5b ∧ byte ≠ 0x7b) (noQuote : byte ≠ 0x22)
    (scanned : scanScalar (byte :: body) = some (outline, rest)) :
    scanValue (fuel + 1) (byte :: body) = some (outline, some rest) := by
  rw [scanValue, skipSpace_cons space]
  simp only [noContainer, noQuote, if_false, scanned]
  rfl

/-- A byte that a numeral begins with is no other mark. -/
theorem ne_of_begins {byte other : UInt8}
    (begins : byte = 0x2d ∨ ∃ digit, Digit.ofByte? byte = some digit)
    (differs : other ≠ 0x2d ∧ Digit.ofByte? other = none) : byte ≠ other := by
  rintro rfl
  rcases begins with rfl | ⟨digit, value⟩
  · exact differs.1 rfl
  · rw [differs.2] at value
    contradiction

theorem isSpace_of_begins {byte : UInt8}
    (begins : byte = 0x2d ∨ ∃ digit, Digit.ofByte? byte = some digit) :
    isSpace byte = false := by
  cases space : isSpace byte with
  | false => rfl
  | true =>
    simp only [isSpace, Bool.or_eq_true, decide_eq_true_eq] at space
    rcases space with ((rfl | rfl) | rfl) | rfl <;>
      exact absurd rfl (ne_of_begins begins (by decide))

theorem scanValue_number {numeral : Numeral} (regular : numeral.Regular) (fuel : Nat)
    (ends : EndsNumeral rest) :
    scanValue (fuel + 1) (Utf8.encodeChars numeral.chars ++ rest) =
      some (.number numeral, some rest) := by
  have scanned := scanNumeral_chars regular ends
  rcases exists_first_byte regular with ⟨byte, others, written, begins⟩
  rw [written, List.cons_append] at scanned ⊢
  have noNull := ne_of_begins begins (show 0x6e ≠ 0x2d ∧ _ by decide)
  have noTrue := ne_of_begins begins (show 0x74 ≠ 0x2d ∧ _ by decide)
  have noFalse := ne_of_begins begins (show 0x66 ≠ 0x2d ∧ _ by decide)
  have scalar : scanScalar (byte :: (others ++ rest)) = some (.number numeral, rest) := by
    simp [scanScalar, afterWord, List.isPrefixOf, scanned, noNull.symm, noTrue.symm, noFalse.symm]
  exact scanValue_scalar (isSpace_of_begins begins)
    ⟨ne_of_begins begins (by decide), ne_of_begins begins (by decide)⟩
    (ne_of_begins begins (by decide)) scalar

end Outline

/-! ## Values -/

/-- Items in the text of a container: each on its line, with a comma between two of them. -/
def listed (style : Style) (depth : Nat) (items : List (List Char)) : List Char :=
  ((items.map (style.lineBreak depth ++ ·)).intersperse [',']).flatten

theorem listed_singleton (style : Style) (depth : Nat) (item : List Char) :
    listed style depth [item] = style.lineBreak depth ++ item := by
  simp [listed]

theorem listed_cons_cons (style : Style) (depth : Nat) (first second : List Char)
    (rest : List (List Char)) :
    listed style depth (first :: second :: rest) =
      style.lineBreak depth ++ (first ++ ',' :: listed style depth (second :: rest)) := by
  simp [listed]

theorem enclose_cons (style : Style) (depth : Nat) (opening closing : Char) (first : List Char)
    (rest : List (List Char)) :
    enclose style depth opening closing (first :: rest) =
      opening :: (listed style (depth + 1) (first :: rest) ++
        (style.lineBreak depth ++ [closing])) := by
  simp [enclose, listed]

/-- A regular value begins with a mark that is neither space nor the end of a container. -/
theorem exists_first_mark (style : Style) (depth : Nat) {value : Json} (regular : value.Regular) :
    ∃ byte others, Utf8.encodeChars (chars style depth value) = byte :: others ∧
      Outline.isSpace byte = false ∧ byte ≠ 0x5d := by
  cases value with
  | null => exact ⟨_, _, rfl, rfl, by decide⟩
  | bool value => cases value <;> exact ⟨_, _, rfl, rfl, by decide⟩
  | number numeral =>
    rcases Outline.exists_first_byte regular with ⟨byte, others, written, begins⟩
    exact ⟨byte, others, written, Outline.isSpace_of_begins begins,
      Outline.ne_of_begins begins (by decide)⟩
  | text content => exact ⟨_, _, rfl, rfl, by decide⟩
  | array items =>
    cases items with
    | nil => exact ⟨_, _, rfl, rfl, by decide⟩
    | cons first rest =>
      rw [chars, itemsChars, enclose_cons]
      exact ⟨_, _, rfl, rfl, by decide⟩
  | object members =>
    cases members with
    | nil => exact ⟨_, _, rfl, rfl, by decide⟩
    | cons first rest =>
      rw [chars, membersChars, enclose_cons]
      exact ⟨_, _, rfl, rfl, by decide⟩

theorem itemsChars_eq_map (style : Style) (depth : Nat) (items : List Json) :
    itemsChars style depth items = items.map (chars style depth) := by
  induction items with
  | nil => rfl
  | cons first rest hypothesis => rw [itemsChars, hypothesis, List.map_cons]

theorem membersChars_eq_map (style : Style) (depth : Nat) (members : List (String × Json)) :
    membersChars style depth members = members.map (memberChars style depth) := by
  induction members with
  | nil => rfl
  | cons first rest hypothesis => rw [membersChars, hypothesis, List.map_cons]

theorem outlines_eq_map (items : List Json) : outlines items = items.map outline := by
  induction items with
  | nil => rfl
  | cons first rest hypothesis => rw [outlines, hypothesis, List.map_cons]

theorem memberOutlines_eq_map (members : List (String × Json)) :
    memberOutlines members = members.map memberOutline := by
  induction members with
  | nil => rfl
  | cons first rest hypothesis => rw [memberOutlines, hypothesis, List.map_cons]

theorem allRegular_iff {items : List Json} :
    AllRegular items ↔ ∀ item ∈ items, item.Regular := by
  induction items with
  | nil => simp [AllRegular]
  | cons first rest hypothesis => simp [AllRegular, hypothesis]

section Documents

open Outline

variable {style : Style} {depth fuel : Nat} {closing rest : Bytes}

/-- Whether a text is scanned to an outline, wherever it stands. -/
def Scans (text : List Char) (outline : Outline) : Prop :=
  ∀ fuel rest, 2 * (Utf8.encodeChars text).length ≤ fuel → EndsNumeral rest →
    scanValue fuel (Utf8.encodeChars text ++ rest) = some (outline, some rest)

theorem scanItems_listed (blank : style.Blank) {items : List Json} (present : items ≠ [])
    (scans : ∀ item ∈ items, Scans (chars style depth item) item.outline)
    (enough : 2 * (Utf8.encodeChars (listed style depth (items.map (chars style depth)))).length + 1
      ≤ fuel)
    (blankClosing : IsBlank closing) :
    scanItems fuel (Utf8.encodeChars (listed style depth (items.map (chars style depth))) ++
      (closing ++ 0x5d :: rest)) = (items.map outline, some rest) := by
  induction items generalizing fuel with
  | nil => contradiction
  | cons first others hypothesis =>
    have scansFirst := scans first List.mem_cons_self
    cases fuel with
    | zero => simp at enough
    | succ fuel =>
      cases others with
      | nil =>
        rw [List.map_singleton, listed_singleton, Utf8.encodeChars_append] at enough ⊢
        rw [List.length_append] at enough
        have ends : EndsNumeral (closing ++ 0x5d :: rest) :=
          endsNumeral_append blankClosing (endsNumeral_cons (by decide) rest)
        apply scanItems_last
        · rw [List.append_assoc, scanValue_skipSpace (blank.lineBreak depth)]
          exact scansFirst fuel _ (by omega) ends
        · rw [skipSpace_append blankClosing]
          exact skipSpace_cons rfl rest
      | cons second more =>
        have scansOthers : ∀ item ∈ second :: more,
            Scans (chars style depth item) item.outline := by
          intro item member
          exact scans item (List.mem_cons_of_mem _ member)
        rw [List.map_cons, List.map_cons, listed_cons_cons] at enough ⊢
        simp only [Utf8.encodeChars_append, Utf8.encodeChars_cons, List.length_append,
          List.append_assoc] at enough ⊢
        apply scanItems_more
        · rw [scanValue_skipSpace (blank.lineBreak depth)]
          exact scansFirst fuel _ (by omega) (endsNumeral_cons (by decide) _)
        · exact skipSpace_cons rfl _
        · apply hypothesis (List.cons_ne_nil second more) scansOthers
          have comma : (Utf8.encodeChar ',').length = 1 := rfl
          rw [List.map_cons]
          omega

theorem names_quote {blank : Bytes} (isBlank : IsBlank blank) (name : String) (rest : Bytes) :
    Names (blank ++ (Utf8.encodeChars (quote name) ++ 0x3a :: rest)) name rest := by
  refine ⟨_, 0x3a :: rest, ?_, scanText_quoted name (0x3a :: rest), skipSpace_cons rfl rest⟩
  rw [skipSpace_append isBlank, encodeChars_quote]
  exact skipSpace_cons rfl _

theorem encodeChars_member (member : String × Json) :
    Utf8.encodeChars (memberChars style depth member) =
      Utf8.encodeChars (quote member.1) ++
        0x3a :: (Utf8.encodeChars style.gap ++ Utf8.encodeChars (chars style depth member.2)) := by
  rcases member with ⟨name, value⟩
  rw [memberChars, Utf8.encodeChars_append, Utf8.encodeChars_append, Utf8.encodeChars_cons,
    List.append_assoc]
  rfl

theorem scanMembers_listed (blank : style.Blank) {members : List (String × Json)}
    (present : members ≠ [])
    (scans : ∀ member ∈ members, Scans (chars style depth member.2) member.2.outline)
    (enough : 2 * (Utf8.encodeChars
      (listed style depth (members.map (memberChars style depth)))).length + 1 ≤ fuel)
    (blankClosing : IsBlank closing) :
    scanMembers fuel
      (Utf8.encodeChars (listed style depth (members.map (memberChars style depth))) ++
        (closing ++ 0x7d :: rest)) = (members.map memberOutline, some rest) := by
  induction members generalizing fuel with
  | nil => contradiction
  | cons first others hypothesis =>
    rcases first with ⟨name, value⟩
    have scansFirst : Scans (chars style depth value) value.outline :=
      scans (name, value) List.mem_cons_self
    cases fuel with
    | zero => simp at enough
    | succ fuel =>
      cases others with
      | nil =>
        rw [List.map_singleton, listed_singleton, Utf8.encodeChars_append,
          encodeChars_member] at enough ⊢
        simp only [List.length_append, List.length_cons, List.append_assoc,
          List.cons_append] at enough ⊢
        have ends : EndsNumeral (closing ++ 0x7d :: rest) :=
          endsNumeral_append blankClosing (endsNumeral_cons (by decide) rest)
        apply scanMembers_last
        · exact names_quote (blank.lineBreak depth) name _
        · rw [scanValue_skipSpace blank.gap]
          exact scansFirst fuel _ (by omega) ends
        · rw [skipSpace_append blankClosing]
          exact skipSpace_cons rfl rest
      | cons second more =>
        have scansOthers : ∀ member ∈ second :: more,
            Scans (chars style depth member.2) member.2.outline := by
          intro member listed
          exact scans member (List.mem_cons_of_mem _ listed)
        rw [List.map_cons, List.map_cons, listed_cons_cons] at enough ⊢
        simp only [Utf8.encodeChars_append, Utf8.encodeChars_cons, encodeChars_member,
          List.length_append, List.length_cons, List.append_assoc, List.cons_append] at enough ⊢
        apply scanMembers_more
        · exact names_quote (blank.lineBreak depth) name _
        · rw [scanValue_skipSpace blank.gap]
          exact scansFirst fuel _ (by omega) (endsNumeral_cons (by decide) _)
        · exact skipSpace_cons rfl _
        · apply hypothesis (List.cons_ne_nil second more) scansOthers
          have comma : (Utf8.encodeChar ',').length = 1 := rfl
          rw [List.map_cons]
          omega

/-- There is a byte in the text of each value, and so there is fuel for it. -/
theorem scans_of_succ {value : Json} {outline : Outline} (regular : value.Regular)
    (scanned : ∀ fuel rest, 2 * (Utf8.encodeChars (chars style depth value)).length ≤ fuel + 1 →
      EndsNumeral rest → scanValue (fuel + 1) (Utf8.encodeChars (chars style depth value) ++ rest) =
        some (outline, some rest)) :
    Scans (chars style depth value) outline := by
  intro fuel rest enough ends
  rcases exists_first_mark style depth regular with ⟨byte, others, written, -⟩
  cases fuel with
  | zero => simp [written] at enough
  | succ fuel => exact scanned fuel rest enough ends

theorem scans_null : Scans (chars style depth .null) .null := by
  apply scans_of_succ
  · trivial
  · intro fuel rest _ _
    exact scanValue_scalar rfl (by decide) (by decide) (scanScalar_null rest)

theorem scans_bool (value : Bool) : Scans (chars style depth (.bool value)) (.bool value) := by
  apply scans_of_succ
  · trivial
  · intro fuel rest _ _
    cases value with
    | true => exact scanValue_scalar rfl (by decide) (by decide) (scanScalar_true rest)
    | false => exact scanValue_scalar rfl (by decide) (by decide) (scanScalar_false rest)

theorem scans_number {numeral : Numeral} (regular : numeral.Regular) :
    Scans (chars style depth (.number numeral)) (.number numeral) := by
  apply scans_of_succ
  · exact regular
  · intro fuel rest _ ends
    exact scanValue_number regular fuel ends

theorem scans_text (content : String) :
    Scans (chars style depth (.text content)) (.text (some content)) := by
  apply scans_of_succ
  · trivial
  · intro fuel rest _ _
    exact scanValue_text content fuel rest

theorem encodeChars_enclose (opening closing : Char) (first : List Char) (rest : List (List Char)) :
    Utf8.encodeChars (enclose style depth opening closing (first :: rest)) =
      Utf8.encodeChar opening ++ (Utf8.encodeChars (listed style (depth + 1) (first :: rest)) ++
        (Utf8.encodeChars (style.lineBreak depth) ++ Utf8.encodeChar closing)) := by
  rw [enclose_cons, Utf8.encodeChars_cons, Utf8.encodeChars_append, Utf8.encodeChars_append,
    Utf8.encodeChars_cons]
  simp [Utf8.encodeChars]

theorem head?_listed (blank : style.Blank) {first : List Char} {rest : List (List Char)}
    {byte mark : UInt8} {others : Bytes} (written : Utf8.encodeChars first = byte :: others)
    (noSpace : isSpace byte = false) (noMark : byte ≠ mark) (after : Bytes) :
    (skipSpace (Utf8.encodeChars (listed style depth (first :: rest)) ++ after)).head? ≠
      some mark := by
  have opens : ∃ more, Utf8.encodeChars (listed style depth (first :: rest)) =
      Utf8.encodeChars (style.lineBreak depth) ++ byte :: more := by
    cases rest with
    | nil =>
      rw [listed_singleton, Utf8.encodeChars_append, written]
      exact ⟨others, rfl⟩
    | cons second more =>
      rw [listed_cons_cons, Utf8.encodeChars_append, Utf8.encodeChars_append, written]
      exact ⟨_, rfl⟩
  rcases opens with ⟨more, opens⟩
  rw [opens, List.append_assoc, skipSpace_append (blank.lineBreak depth), List.cons_append,
    skipSpace_cons noSpace]
  simpa using noMark

theorem scans_array (blank : style.Blank) {items : List Json} (regular : AllRegular items)
    (scans : ∀ item ∈ items, Scans (chars style (depth + 1) item) item.outline) :
    Scans (chars style depth (.array items)) (.array (outlines items) true) := by
  apply scans_of_succ
  · exact regular
  · intro fuel rest enough _
    rw [outlines_eq_map]
    rw [chars, itemsChars_eq_map] at enough ⊢
    cases items with
    | nil => exact scanValue_array_nil fuel rest
    | cons first others =>
      rcases exists_first_mark style (depth + 1) regular.1 with
        ⟨byte, more, written, noSpace, noMark⟩
      have bracket : (Utf8.encodeChar '[').length = 1 := rfl
      have closing : (Utf8.encodeChar ']').length = 1 := rfl
      rw [List.map_cons, encodeChars_enclose] at enough ⊢
      simp only [List.length_append, List.append_assoc] at enough ⊢
      apply scanValue_array
      · exact head?_listed blank written noSpace noMark _
      · rw [← List.map_cons] at enough ⊢
        apply scanItems_listed blank (List.cons_ne_nil first others) scans
        · omega
        · exact blank.lineBreak depth

theorem scans_object (blank : style.Blank) {members : List (String × Json)}
    (regular : MembersRegular members)
    (scans : ∀ member ∈ members, Scans (chars style (depth + 1) member.2) member.2.outline) :
    Scans (chars style depth (.object members)) (.object (memberOutlines members) true) := by
  apply scans_of_succ
  · exact regular
  · intro fuel rest enough _
    rw [memberOutlines_eq_map]
    rw [chars, membersChars_eq_map] at enough ⊢
    cases members with
    | nil => exact scanValue_object_nil fuel rest
    | cons first others =>
      have written : Utf8.encodeChars (memberChars style (depth + 1) first) = _ :=
        encodeChars_member first
      have brace : (Utf8.encodeChar '{').length = 1 := rfl
      have closing : (Utf8.encodeChar '}').length = 1 := rfl
      rw [List.map_cons, encodeChars_enclose] at enough ⊢
      simp only [List.length_append, List.append_assoc] at enough ⊢
      apply scanValue_object
      · rw [encodeChars_quote] at written
        exact head?_listed blank written rfl (by decide) _
      · rw [← List.map_cons] at enough ⊢
        apply scanMembers_listed blank (List.cons_ne_nil first others) scans
        · omega
        · exact blank.lineBreak depth

mutual

/-- A regular value is read back, from its text in any style. -/
theorem scans_chars (blank : style.Blank) (depth : Nat) :
    (value : Json) → value.Regular → Scans (chars style depth value) value.outline
  | .null, _ => scans_null
  | .bool value, _ => scans_bool value
  | .number _, regular => scans_number regular
  | .text content, _ => scans_text content
  | .array items, regular =>
    scans_array blank regular (scans_items blank (depth + 1) items regular)
  | .object members, regular =>
    scans_object blank regular (scans_members blank (depth + 1) members regular)
termination_by structural value => value

theorem scans_items (blank : style.Blank) (depth : Nat) :
    (items : List Json) → AllRegular items →
      ∀ item ∈ items, Scans (chars style depth item) item.outline
  | [], _ => fun item member => absurd member List.not_mem_nil
  | first :: rest, regular => by
    intro item member
    rcases List.mem_cons.mp member with same | member
    · rw [same]
      exact scans_chars blank depth first regular.1
    · exact scans_items blank depth rest regular.2 item member
termination_by structural items => items

theorem scans_members (blank : style.Blank) (depth : Nat) :
    (members : List (String × Json)) → MembersRegular members →
      ∀ member ∈ members, Scans (chars style depth member.2) member.2.outline
  | [], _ => fun item member => absurd member List.not_mem_nil
  | first :: rest, regular => by
    intro member listed
    rcases List.mem_cons.mp listed with same | listed
    · rw [same]
      exact scans_member blank depth first regular.1
    · exact scans_members blank depth rest regular.2 member listed
termination_by structural members => members

theorem scans_member (blank : style.Blank) (depth : Nat) :
    (member : String × Json) → MemberRegular member →
      Scans (chars style depth member.2) member.2.outline
  | (_, value), regular => scans_chars blank depth value regular
termination_by structural member => member

end

theorem scan_chars (blank : style.Blank) {value : Json} (regular : value.Regular) :
    Outline.scan (Utf8.encodeChars (chars style 0 value)) = some (value.outline, some []) := by
  have ends : EndsNumeral [] := fun _ member => absurd member (by simp)
  have scanned := scans_chars blank 0 value regular
    (2 * (Utf8.encodeChars (chars style 0 value)).length + 2) [] (by omega) ends
  rwa [List.append_nil] at scanned

end Documents

end DeviceRegistry.Json
