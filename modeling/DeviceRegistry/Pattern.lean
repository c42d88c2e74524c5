/-!
# Patterns

Expressions that describe texts: characters and classes of them, which may be repeated,
stand one after the other, or be alternatives.

An expression keeps what decides whether it can be used. So it does not say how often a
repetition repeats, which position an assertion is about, or how a group is called.
-/

namespace DeviceRegistry.Pattern

/-- A character of an expression. -/
structure Literal where
  character : Char
  /-- The character is written as a byte, by two digits. -/
  isByte : Bool
deriving DecidableEq, Repr, Inhabited

/-- What a group, or the rest of one, can set. -/
inductive Flag where
  /-- Upper and lower case are the same. -/
  | caseless
  /-- Lines have a beginning and an end of their own. -/
  | multiline
  /-- A dot is the end of a line, too. -/
  | dotAll
  /-- Repetitions take as little as they can. -/
  | lazy
  /-- A carriage return ends a line, too. -/
  | carriageReturn
  /-- The expression is about characters, and otherwise about bytes. -/
  | unicode
  /-- Blanks and comments do not count. -/
  | spacious
deriving DecidableEq, Repr

/-- Flags with what they are set to; there is one setting of a flag at most. -/
abbrev Settings := List (Flag × Bool)

/-- The value of a flag that some settings may change. -/
def Settings.value (settings : Settings) (flag : Flag) (before : Bool) : Bool :=
  (settings.lookup flag).getD before

/-- What stands between the brackets of a class. -/
inductive ClassContent where
  | nothing
  | literal (literal : Literal)
  | range (first last : Literal)
  /-- The digits, the blanks, or the characters of words. -/
  | named (isNegated : Bool)
  /-- A class of ASCII characters with a name between colons. -/
  | ascii (isNegated : Bool)
  | bracketed (isNegated : Bool) (content : ClassContent)
  | union (items : List ClassContent)
  /-- An intersection or a difference. -/
  | operation (left right : ClassContent)
deriving Repr

/-- An expression. -/
inductive Expression where
  | nothing
  /-- Settings that hold up to the end of the group. -/
  | settings (settings : Settings)
  | literal (literal : Literal)
  /-- Any character but those that end a line. -/
  | dot
  /-- The beginning or the end of the text or of a line. -/
  | position
  /-- The beginning or the end of a word, or neither of them. -/
  | wordPosition
  /-- The digits, the blanks, or the characters of words. -/
  | named (isNegated : Bool)
  | bracketed (isNegated : Bool) (content : ClassContent)
  | repetition (body : Expression)
  | group (settings : Settings) (body : Expression)
  | alternation (branches : List Expression)
  | sequence (parts : List Expression)
deriving Repr

end DeviceRegistry.Pattern
