import DeviceRegistry.Node.FieldValue
import DeviceRegistry.Text.Split
import DeviceRegistry.Text.Utf8
/-!
# Log filters

A filter is a list of directives with commas between them. A directive is a level, or
it names a target, and in brackets a span or a field, each of which may be left out; a
level after an equals sign says how much is let through, and without one it is all.

* `warn` is the level of everything that no other directive concerns.
* `iot_datanode=debug` concerns the targets that begin with that text.
* `iot_datanode[{path}]=off` concerns, of these, the events with a field `path`.
* `[import{path=a.*}]=trace` concerns what happens within some spans of that name.

Of the directives that concern an event, the one with the longest target decides, and
among those one with a field. A filter without directives lets errors through.

The parts of a directive are told apart without the blanks around it, but they are taken
at the same places of the directive with its blanks. So a level with blanks around it is
a target, and a directive with blanks in front names other things than it seems to.
-/

namespace DeviceRegistry.Node

/-- How important an event is. -/
inductive Level where
  | error
  | warn
  | info
  | debug
  | trace
deriving DecidableEq, Repr

/-- The number of a level; less important levels have greater ones. -/
def Level.rank : Level → Nat
  | .error => 1
  | .warn => 2
  | .info => 3
  | .debug => 4
  | .trace => 5

/-- The parts of the program that log. -/
inductive LogSource where
  | logging
  | genesis
  | modules
  | boot
  | program
deriving DecidableEq, Repr

/-- The target by which a filter knows a part of the program. -/
def LogSource.target : LogSource → String
  | .logging => "iot_telemetry::logging"
  | .genesis => "iot_datanode::genesis"
  | .modules => "node_runtime::container::modules"
  | .boot => "node_runtime::node"
  | .program => "node_runtime"

/-- Something that is worth a line in the log. -/
structure LogEvent where
  level : Level
  source : LogSource
  /-- The names of the values that the event carries besides its text. -/
  details : List String
  text : String
deriving DecidableEq, Repr

/-- The names of the fields of an event; its text is one of them. -/
def LogEvent.fields (event : LogEvent) : List String :=
  "message" :: event.details

namespace LogFilter

/-- Which events of its targets a directive concerns. -/
inductive Scope where
  | everything
  /-- The events with a field of this name. -/
  | field (name : List Char)
  /--
  What happens within some spans, which have a name or a field with some value. The
  program opens no span, so this concerns nothing.
  -/
  | spans
deriving DecidableEq, Repr

namespace Scope

def concerns (event : LogEvent) : Scope → Bool
  | .everything => true
  | .field name => event.fields.contains (String.ofList name)
  | .spans => false

/-- Whether the first scope is less specific than the second one. -/
def isWider : Scope → Scope → Bool
  | .everything, .field _ => true
  | .field left, .field right => left < right
  | _, _ => false

end Scope

/-- Which events of a target are let through. -/
structure Directive where
  /-- The beginning of the target; every target begins with the empty text. -/
  target : List Char
  scope : Scope
  /-- The greatest rank that is let through; none at all is let through at zero. -/
  rank : Nat
deriving DecidableEq, Repr

/-- The rank below which everything is let through. -/
def greatestRank : Nat :=
  Level.trace.rank

/-! ## Reading -/

def number? (digits : List Char) : Option Nat :=
  if !digits.isEmpty && digits.all Char.isDigit then
    some (digits.foldl (fun number digit => 10 * number + (digit.toNat - 0x30)) 0)
  else none

/-- The greatest rank that a level lets through, by its number. -/
def numberedRank? (characters : List Char) : Option Nat :=
  let digits := if characters.head? = some '+' then characters.tail else characters
  (number? digits).filter (· ≤ greatestRank)

/-- The greatest rank that a level lets through, by its name. -/
def namedRank? (characters : List Char) : Option Nat :=
  match characters.map Char.toLower with
  | ['o', 'f', 'f'] => some 0
  | ['e', 'r', 'r', 'o', 'r'] => some Level.error.rank
  | ['w', 'a', 'r', 'n'] => some Level.warn.rank
  | ['i', 'n', 'f', 'o'] => some Level.info.rank
  | ['d', 'e', 'b', 'u', 'g'] => some Level.debug.rank
  | ['t', 'r', 'a', 'c', 'e'] => some Level.trace.rank
  | _ => none

/-- The greatest rank that a level lets through. -/
def rank? (characters : List Char) : Option Nat :=
  numberedRank? characters <|> namedRank? characters

def canBegin (character : Char) : Bool :=
  ['[', '-', ':', '_'].contains character || Text.isAlphanumeric character

/-- Where a part of a directive is, in bytes. -/
structure Bounds where
  start : Nat
  stop : Nat
deriving DecidableEq, Repr, Inhabited

/-- The bounds of characters that begin at a position. -/
def boundsAt (start : Nat) (characters : List Char) : Bounds :=
  ⟨start, start + Text.Utf8.byteCount characters⟩

/-- Where the parts in the brackets of a directive are. -/
structure ScopeShape where
  span : Bounds
  field : Option Bounds
deriving DecidableEq, Repr, Inhabited

/-- Where the parts of a directive are. -/
structure Shape where
  target : Bounds
  scope : Option ScopeShape
  /-- Where the level begins. -/
  level : Option Nat
deriving DecidableEq, Repr, Inhabited

/-- Finds the parts after an opening bracket, and the position and the text of what follows. -/
def scopeShape? (start : Nat) (characters : List Char) :
    Option (ScopeShape × Nat × List Char) :=
  let (span, rest) := characters.span fun character => character ≠ ']' && character ≠ '{'
  let span := boundsAt start span
  match rest with
  | ']' :: rest => some (⟨span, none⟩, span.stop + 1, rest)
  | '{' :: rest =>
    let (field, rest) := rest.span (· ≠ '}')
    let bounds := boundsAt (span.stop + 1) field
    match field, rest with
    | _ :: _, '}' :: ']' :: rest => some (⟨span, some bounds⟩, bounds.stop + 2, rest)
    | _, _ => none
  | _ => none

/-- Finds the level at the end of a directive, if it has one. -/
def levelStart? (start : Nat) : List Char → Option (Option Nat)
  | [] => some none
  | '=' :: _ => some (some (start + 1))
  | _ => none

def shape? (characters : List Char) : Option Shape := do
  if !characters.head?.any canBegin then none
  let (target, rest) := characters.span fun character => character ≠ '=' && character ≠ '['
  let target := boundsAt 0 target
  match rest with
  | '[' :: rest =>
    let (scope, position, rest) ← scopeShape? (target.stop + 1) rest
    return ⟨target, some scope, ← levelStart? position rest⟩
  | rest => return ⟨target, none, ← levelStart? target.stop rest⟩

def part? (bytes : Bytes) (bounds : Bounds) : Option (List Char) :=
  Text.Utf8.cut? bytes bounds.start bounds.stop

/-- Reads the parts in the brackets of a directive. -/
def scope? (bytes : Bytes) (shape : ScopeShape) : Option Scope := do
  let span ← part? bytes shape.span
  match shape.field with
  | none => return .spans
  | some bounds =>
    let field ← part? bytes bounds
    let (name, rest) := field.span (· ≠ '=')
    match rest with
    | [] => return if span.isEmpty then .field name else .spans
    | _ :: rest => if FieldValue.isReadable (rest.takeWhile (· ≠ '=')) then return .spans else none

/-- Reads the level that begins at a position. -/
def levelFrom? (bytes : Bytes) (start : Nat) : Option Nat := do
  let level ← part? bytes ⟨start, bytes.length⟩
  if level.isEmpty then return greatestRank else rank? level

def directive? (written : List Char) : Option Directive := do
  let shape ← shape? (Text.trim written)
  if shape.scope.isNone && shape.level.isNone then
    match rank? written with
    | some rank => return ⟨[], .everything, rank⟩
    | none => return ⟨written, .everything, greatestRank⟩
  else
    let bytes := Text.Utf8.encodeChars written
    let target ← part? bytes shape.target
    let scope ← (shape.scope.map (scope? bytes)).getD (some .everything)
    let rank ← (shape.level.map (levelFrom? bytes)).getD (some greatestRank)
    return ⟨target, scope, rank⟩

/-- Reads a filter; one directive that cannot be read makes all of it unreadable. -/
def ofText? (text : String) : Option (List Directive) :=
  match (Text.split ',' text.toList).filter (· ≠ []) with
  | [] => some [⟨[], .everything, Level.error.rank⟩]
  | written => written.mapM directive?

/-! ## Deciding -/

def Directive.concerns (event : LogEvent) (directive : Directive) : Bool :=
  directive.target.isPrefixOf event.source.target.toList && directive.scope.concerns event

/-- Whether the first directive is less specific than the second one. -/
def Directive.isWider (left right : Directive) : Bool :=
  left.target.length < right.target.length ||
    left.target.length = right.target.length && left.scope.isWider right.scope

/-- The more specific of two directives, and of equally specific ones the second. -/
def prefer (best : Option Directive) (directive : Directive) : Option Directive :=
  match best with
  | none => some directive
  | some other => if directive.isWider other then best else some directive

def deciding? (directives : List Directive) (event : LogEvent) : Option Directive :=
  (directives.filter (·.concerns event)).foldl prefer none

/-- Whether an event is let through. -/
def admits (directives : List Directive) (event : LogEvent) : Bool :=
  (deciding? directives event).any fun directive => event.level.rank ≤ directive.rank

end LogFilter

end DeviceRegistry.Node
