import DeviceRegistry.Pattern.Reader
import DeviceRegistry.Pattern.Usable
/-!
# Values of fields

What a log filter compares the value of a field with: a truth value, a number, or a
pattern. Whatever is a truth value or a number is also a pattern, except for a number with
a plus sign in front.
-/

namespace DeviceRegistry.Node.FieldValue

/-- Whether a text is empty or the exponent of a number. -/
def isExponent : List Char → Bool
  | [] => true
  | first :: rest =>
    let digits := if [some '+', some '-'].contains rest.head? then rest.tail else rest
    ['e', 'E'].contains first && !digits.isEmpty && digits.all Char.isDigit

/-- Whether a text is a number without a sign. -/
def isNumber (characters : List Char) : Bool :=
  if ["inf", "infinity", "nan"].contains (String.ofList (characters.map Char.toLower)) then true
  else
    let (whole, rest) := characters.span Char.isDigit
    let (fraction, rest) :=
      if rest.head? = some '.' then rest.tail.span Char.isDigit else ([], rest)
    !(whole ++ fraction).isEmpty && isExponent rest

/-- Whether a text is something that the value of a field can be compared with. -/
def isReadable (characters : List Char) : Bool :=
  characters.head? = some '+' && isNumber characters.tail ||
    (Pattern.read? characters).any Pattern.Expression.isUsable

end DeviceRegistry.Node.FieldValue
