import DeviceRegistry.Pattern
import DeviceRegistry.Text.Alphanumeric
import DeviceRegistry.Text.Blank
import DeviceRegistry.Text.Hex
/-!
# Reading patterns

* `.`, `^`, `$` and what stands after a backslash have a meaning of their own; any other
  character is itself.
* `?`, `*` and `+` repeat what is in front of them, and a further `?` belongs to them.
* `|` separates alternatives, and parentheses hold a group. A group can begin with
  settings, as in `(?i-u:a)`, or with a name, as in `(?<year>a)`, which no other group has.
  Settings without an expression, as in `(?x)`, hold up to the end of the group around.
* Brackets hold a class. In it, a hyphen stands between the ends of a range, a class may
  hold others, and `&&`, `--` and `~~` combine what is on their two sides.

With the flag `x`, blanks do not count, nor does what follows a `#` on its line.

There are no counted repetitions, so that a pattern has no brace outside a class.
-/

namespace DeviceRegistry.Pattern

open Text (isBlank)

/-! ## Blanks -/

/-- Leaves out blanks, and comments up to the ends of their lines. -/
def skipBlanks (inComment : Bool) : List Char → List Char
  | [] => []
  | character :: rest =>
    if inComment then skipBlanks (character ≠ '\n') rest
    else if isBlank character then skipBlanks false rest
    else if character = '#' then skipBlanks true rest
    else character :: rest

/-- Leaves out blanks where they do not count. -/
def skip (spacious : Bool) (characters : List Char) : List Char :=
  if spacious then skipBlanks false characters else characters

/-- The next character that is no blank, where those do not count; a number sign is passed. -/
def next? (spacious : Bool) (characters : List Char) : Option Char :=
  if spacious then
    let rest := characters.dropWhile isBlank
    let shown := if rest.head? = some '#' then rest.tail.dropWhile isBlank else rest
    shown.head? <|> characters.head?
  else characters.head?

/-! ## Escapes -/

def hexDigit? (character : Char) : Option Nat :=
  if character.toNat < 0x80 then Text.Hex.value? (UInt8.ofNat character.toNat) else none

/-- Reads a number of hexadecimal digits, after a value. -/
def hexDigits? (spacious : Bool) : (count value : Nat) → List Char → Option (Nat × List Char)
  | 0, value, rest => some (value, rest)
  | count + 1, value, rest =>
    match rest with
    | [] => none
    | character :: rest => do
      let digit ← hexDigit? character
      hexDigits? spacious count (16 * value + digit) (skip spacious rest)

/-- Reads a character by the digits of its code. -/
def codeEscape? (spacious : Bool) (count : Nat) (characters : List Char) :
    Option (Expression × List Char) := do
  let (code, rest) ← hexDigits? spacious count 0 (skip spacious characters)
  if code.isValidChar then return (.literal ⟨Char.ofNat code, count = 2⟩, rest) else none

def plain (character : Char) : Expression :=
  .literal ⟨character, false⟩

/-- Reads what stands after a backslash. -/
def escape? (spacious : Bool) : List Char → Option (Expression × List Char)
  | [] => none
  | character :: rest =>
    match character with
    | 'x' => codeEscape? spacious 2 rest
    | 'u' => codeEscape? spacious 4 rest
    | 'U' => codeEscape? spacious 8 rest
    | 'd' | 's' | 'w' => some (.named false, rest)
    | 'D' | 'S' | 'W' => some (.named true, rest)
    | 'A' | 'z' => some (.position, rest)
    | 'b' | 'B' | '<' | '>' => some (.wordPosition, rest)
    | 'a' => some (plain (Char.ofNat 0x07), rest)
    | 't' => some (plain '\t', rest)
    | 'n' => some (plain '\n', rest)
    | 'v' => some (plain (Char.ofNat 0x0b), rest)
    | 'f' => some (plain (Char.ofNat 0x0c), rest)
    | 'r' => some (plain '\r', rest)
    | _ =>
      if character.toNat < 0x80 && !character.isAlphanum then some (plain character, rest)
      else none

/-! ## Classes -/

/-- The names of the classes of ASCII characters. -/
def asciiClassNames : List String :=
  ["alnum", "alpha", "ascii", "blank", "cntrl", "digit", "graph", "lower", "print", "punct",
    "space", "upper", "word", "xdigit"]

/-- Reads a class of ASCII characters after its bracket. -/
def asciiClass? : List Char → Option (ClassContent × List Char)
  | ':' :: rest =>
    let isNegated : Bool := rest.head? = some '^'
    let (name, rest) := (if isNegated then rest.tail else rest).span (· ≠ ':')
    match rest with
    | ':' :: ']' :: rest =>
      if asciiClassNames.contains (String.ofList name) then some (.ascii isNegated, rest)
      else none
    | _ => none
  | _ => none

def member? (spacious : Bool) : List Char → Option (Expression × List Char)
  | [] => none
  | '\\' :: rest => escape? spacious rest
  | character :: rest => some (plain character, rest)

def memberContent? : Expression → Option ClassContent
  | .literal literal => some (.literal literal)
  | .named isNegated => some (.named isNegated)
  | _ => none

/-- Reads a range or a character of a class. -/
def range? (spacious : Bool) (characters : List Char) : Option (ClassContent × List Char) := do
  let (first, rest) ← member? spacious characters
  match skip spacious rest with
  | '-' :: rest =>
    if [some ']', some '-'].contains (next? spacious rest) then
      return (← memberContent? first, '-' :: rest)
    else
      let (last, rest) ← member? spacious (skip spacious rest)
      match first, last with
      | .literal first, .literal last =>
        if first.character ≤ last.character then return (.range first last, rest) else none
      | _, _ => none
  | rest => return (← memberContent? first, rest)

/-- What waits for the end of a class. -/
inductive Unfinished where
  /-- A class, with what is in front of it in the class around it, the last item first. -/
  | opened (isNegated : Bool) (outer : List ClassContent)
  | operation (left : ClassContent)

/-- The items of a class, of which the last one is given first. -/
def ofItems : List ClassContent → ClassContent
  | [] => .nothing
  | [item] => item
  | items => .union items.reverse

/-- Ends the operation that waits for its right side, if there is one. -/
def endOperation (content : ClassContent) : List Unfinished → ClassContent × List Unfinished
  | .operation left :: stack => (.operation left content, stack)
  | stack => (content, stack)

/-- Reads a class from within its brackets; a hyphen or a bracket at its start is itself. -/
def classFrom? (spacious : Bool) : (fuel : Nat) → List Unfinished → (atStart : Bool) →
    (items : List ClassContent) → List Char → Option (Expression × List Char)
  | 0, _, _, _, _ => none
  | fuel + 1, stack, atStart, items, characters =>
    let operate (rest : List Char) : Option (Expression × List Char) :=
      let (left, stack) := endOperation (ofItems items) stack
      classFrom? spacious fuel (.operation left :: stack) false [] rest
    match skip spacious characters with
    | [] => none
    | character :: rest =>
      if atStart && (character = '-' || character = ']' && items.isEmpty) then
        classFrom? spacious fuel stack (character = '-') (.literal ⟨character, false⟩ :: items) rest
      else
        match character, rest with
        | '[', rest =>
          match asciiClass? rest with
          | some (item, rest) => classFrom? spacious fuel stack false (item :: items) rest
          | none =>
            let rest := skip spacious rest
            let isNegated : Bool := rest.head? = some '^'
            let rest := if isNegated then rest.tail else rest
            classFrom? spacious fuel (.opened isNegated items :: stack) true [] rest
        | ']', rest =>
          match endOperation (ofItems items) stack with
          | (content, [.opened isNegated _]) => some (.bracketed isNegated content, rest)
          | (content, .opened isNegated outer :: stack) =>
            classFrom? spacious fuel stack false (.bracketed isNegated content :: outer) rest
          | _ => none
        | '&', '&' :: rest => operate rest
        | '-', '-' :: rest => operate rest
        | '~', '~' :: rest => operate rest
        | character, rest => do
          let (item, rest) ← range? spacious (character :: rest)
          classFrom? spacious fuel stack false (item :: items) rest

def class? (spacious : Bool) (characters : List Char) : Option (Expression × List Char) :=
  let rest := skip spacious characters
  let isNegated : Bool := rest.head? = some '^'
  let rest := if isNegated then rest.tail else rest
  classFrom? spacious (rest.length + 1) [.opened isNegated []] true [] rest

/-! ## Groups -/

def flag? : Char → Option Flag
  | 'i' => some .caseless
  | 'm' => some .multiline
  | 's' => some .dotAll
  | 'U' => some .lazy
  | 'R' => some .carriageReturn
  | 'u' => some .unicode
  | 'x' => some .spacious
  | _ => none

/--
Reads settings up to a colon or a closing parenthesis. Those after a hyphen switch flags
off; there is one hyphen at most, and it is not the last character.
-/
def settings? (isOff afterHyphen : Bool) (settings : Settings) :
    List Char → Option (Settings × Char × List Char)
  | [] => none
  | character :: rest =>
    if character = ':' || character = ')' then
      if afterHyphen then none else some (settings, character, rest)
    else if character = '-' then
      if isOff then none else settings? true true settings rest
    else
      match flag? character with
      | none => none
      | some flag =>
        if (settings.lookup flag).isSome then none
        else settings? isOff false (settings ++ [(flag, !isOff)]) rest

/-- Whether the name of a group can begin with a character. -/
def canBeginName (character : Char) : Bool :=
  character = '_' || Text.isAlphabetic character

/-- Whether the name of a group can go on with a character. -/
def canContinueName (character : Char) : Bool :=
  ['_', '.', '[', ']'].contains character || Text.isAlphanumeric character

/-- Reads the name of a group and the bracket after it. -/
def name? (characters : List Char) : Option (List Char × List Char) :=
  let (name, rest) := characters.span (· ≠ '>')
  match name, rest with
  | first :: others, '>' :: rest =>
    if canBeginName first && others.all canContinueName then some (name, rest) else none
  | _, _ => none

/-! ## Expressions -/

/-- A group that is being read. -/
structure Level where
  /-- The parts of the present alternative, the last one first. -/
  parts : List Expression
  /-- The alternatives in front of it, the last one first. -/
  branches : List Expression
  spacious : Bool

namespace Level

def start (spacious : Bool) : Level := ⟨[], [], spacious⟩

def push (level : Level) (part : Expression) : Level :=
  { level with parts := part :: level.parts }

def alternative (level : Level) : Expression :=
  match level.parts with
  | [] => .nothing
  | [part] => part
  | parts => .sequence parts.reverse

def expression (level : Level) : Expression :=
  if level.branches.isEmpty then level.alternative
  else .alternation (level.alternative :: level.branches).reverse

end Level

/-- A pattern that is being read. -/
structure Progress where
  level : Level
  /-- The groups around the present one with its settings, the innermost one first. -/
  outer : List (Level × Settings)
  /-- The names of groups. -/
  names : List (List Char)

namespace Progress

def start : Progress := ⟨.start false, [], []⟩

def push (progress : Progress) (part : Expression) : Progress :=
  { progress with level := progress.level.push part }

/-- Puts an expression that was read behind the others, and keeps what follows it. -/
def pushRead (progress : Progress) (read : Expression × List Char) : Progress × List Char :=
  (progress.push read.1, read.2)

def enter (progress : Progress) (settings : Settings) : Progress :=
  { progress with
    level := .start (settings.value .spacious progress.level.spacious)
    outer := (progress.level, settings) :: progress.outer }

/-- Reads the beginning of a group, or settings without an expression. -/
def open? (progress : Progress) (characters : List Char) : Option (Progress × List Char) :=
  let named (characters : List Char) : Option (Progress × List Char) := do
    let (name, rest) ← name? characters
    if progress.names.contains name then none
    else return ({ progress.enter [] with names := name :: progress.names }, rest)
  match skip progress.level.spacious characters with
  | '?' :: 'P' :: '<' :: rest => named rest
  | '?' :: '<' :: rest => named rest
  | '?' :: rest =>
    match settings? false false [] rest with
    | none => none
    | some (settings, ':', rest) => some (progress.enter settings, rest)
    | some ([], _, _) => none
    | some (settings, _, rest) =>
      let level := progress.level.push (.settings settings)
      let spacious := settings.value .spacious level.spacious
      some ({ progress with level := { level with spacious } }, rest)
  | rest => some (progress.enter [], rest)

def close? (progress : Progress) : Option Progress :=
  match progress.outer with
  | [] => none
  | (level, settings) :: outer =>
    some { progress with level := level.push (.group settings progress.level.expression), outer }

/-- Repeats the expression in front. -/
def repeat? (progress : Progress) : Option Progress :=
  match progress.level.parts with
  | [] | .settings _ :: _ => none
  | part :: parts => some { progress with level.parts := .repetition part :: parts }

def endAlternative (progress : Progress) : Progress :=
  let level := progress.level
  { progress with
    level := { level with parts := [], branches := level.alternative :: level.branches } }

/-- Takes a character, and what belongs to it of the characters after it. -/
def take? (progress : Progress) (character : Char) (rest : List Char) :
    Option (Progress × List Char) :=
  match character with
  | '(' => progress.open? rest
  | ')' => progress.close?.map (·, rest)
  | '|' => some (progress.endAlternative, rest)
  | '?' | '*' | '+' =>
    progress.repeat?.map (·, if rest.head? = some '?' then rest.tail else rest)
  | '{' => none
  | '[' => (class? progress.level.spacious rest).map progress.pushRead
  | '\\' => (escape? progress.level.spacious rest).map progress.pushRead
  | '.' => some (progress.push .dot, rest)
  | '^' | '$' => some (progress.push .position, rest)
  | character => some (progress.push (plain character), rest)

/-- Takes all characters; each of them needs fuel at most once. -/
def takeAll? : (fuel : Nat) → Progress → List Char → Option Progress
  | 0, _, _ => none
  | fuel + 1, progress, characters =>
    match skip progress.level.spacious characters with
    | [] => some progress
    | character :: rest => do
      let (progress, rest) ← progress.take? character rest
      takeAll? fuel progress rest

end Progress

def read? (characters : List Char) : Option Expression := do
  let progress ← Progress.start.takeAll? (characters.length + 1) characters
  if progress.outer.isEmpty then return progress.level.expression else none

end DeviceRegistry.Pattern
