import DeviceRegistry.Number.Numeral
import DeviceRegistry.Text.Hex
/-!
# JSON values and their text

The members of an object keep their order. A text is laid out by a style: what stands
before an item, before a closing bracket and after a name. The compact style puts
nothing there; the indented one starts a line for every item, two spaces deeper than
the container.

In a text only the quote, the backslash and the control characters below `0x20` are
escaped.
-/

namespace DeviceRegistry

/-- A JSON value. -/
inductive Json where
  | null
  | bool (value : Bool)
  | number (numeral : Numeral)
  | text (content : String)
  | array (items : List Json)
  | object (members : List (String × Json))
deriving Repr, Inhabited

namespace Json

/-- A character as it stands within a text. -/
def escapeChar (character : Char) : List Char :=
  let code := character.toNat
  if code = 0x22 then ['\\', '"']
  else if code = 0x5c then ['\\', '\\']
  else if 0x20 ≤ code then [character]
  else if code = 0x08 then ['\\', 'b']
  else if code = 0x09 then ['\\', 't']
  else if code = 0x0a then ['\\', 'n']
  else if code = 0x0c then ['\\', 'f']
  else if code = 0x0d then ['\\', 'r']
  else ['\\', 'u', '0', '0', Text.Hex.digit (code / 16), Text.Hex.digit (code % 16)]

def quote (content : String) : List Char :=
  '"' :: content.toList.flatMap escapeChar ++ ['"']

/-- What a printer puts between the marks of a value. -/
structure Style where
  /-- What stands before an item or a closing bracket at a depth. -/
  lineBreak : (depth : Nat) → List Char
  /-- What stands after the colon of a member. -/
  gap : List Char

/-- Nothing between the marks. -/
def Style.compact : Style where
  lineBreak _ := []
  gap := []

/-- A line for each item. -/
def Style.indented : Style where
  lineBreak depth := '\n' :: List.replicate (2 * depth) ' '
  gap := [' ']

/-- The items of a container between its brackets. -/
def enclose (style : Style) (depth : Nat) (opening closing : Char) : List (List Char) → List Char
  | [] => [opening, closing]
  | items =>
    let placed := items.map (style.lineBreak (depth + 1) ++ ·)
    opening :: (placed.intersperse [',']).flatten ++ style.lineBreak depth ++ [closing]

mutual

/-- The characters of a value whose container lies at a depth. -/
def chars (style : Style) (depth : Nat) : Json → List Char
  | .null => ['n', 'u', 'l', 'l']
  | .bool true => ['t', 'r', 'u', 'e']
  | .bool false => ['f', 'a', 'l', 's', 'e']
  | .number numeral => numeral.chars
  | .text content => quote content
  | .array items => enclose style depth '[' ']' (itemsChars style (depth + 1) items)
  | .object members => enclose style depth '{' '}' (membersChars style (depth + 1) members)
termination_by structural value => value

def itemsChars (style : Style) (depth : Nat) : List Json → List (List Char)
  | [] => []
  | item :: items => chars style depth item :: itemsChars style depth items
termination_by structural items => items

def membersChars (style : Style) (depth : Nat) : List (String × Json) → List (List Char)
  | [] => []
  | member :: members => memberChars style depth member :: membersChars style depth members
termination_by structural members => members

/-- The characters of a member: its name and its value. -/
def memberChars (style : Style) (depth : Nat) : String × Json → List Char
  | (name, value) => quote name ++ ':' :: style.gap ++ chars style depth value
termination_by structural member => member

end

/-- The text of a value without any space. -/
def compact (value : Json) : String :=
  String.ofList (chars .compact 0 value)

/-- The text of a value with a line for each item. -/
def indented (value : Json) : String :=
  String.ofList (chars .indented 0 value)

end Json

end DeviceRegistry
