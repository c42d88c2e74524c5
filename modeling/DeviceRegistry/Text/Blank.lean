/-!
# Blank characters

The characters with the Unicode property `White_Space`, and the removal of such
characters from both ends of a text.
-/

namespace DeviceRegistry.Text

/-- The code points with the property `White_Space`, in ascending order. -/
def blankCodes : List Nat :=
  [0x09, 0x0a, 0x0b, 0x0c, 0x0d, 0x20, 0x85, 0xa0, 0x1680, 0x2000, 0x2001, 0x2002, 0x2003, 0x2004,
   0x2005, 0x2006, 0x2007, 0x2008, 0x2009, 0x200a, 0x2028, 0x2029, 0x202f, 0x205f, 0x3000]

/-- Whether a character has the property `White_Space`. -/
def isBlank (character : Char) : Bool :=
  blankCodes.contains character.toNat

/-- A text without the blank characters at its two ends. -/
def trim (characters : List Char) : List Char :=
  ((characters.dropWhile isBlank).reverse.dropWhile isBlank).reverse

/-- The blanks of plain ASCII texts are blanks here too. -/
theorem isBlank_of_isWhitespace (character : Char) (holds : character.isWhitespace = true) :
    isBlank character = true := by
  simp only [Char.isWhitespace, Bool.or_eq_true, decide_eq_true_eq] at holds
  rcases holds with ((rfl | rfl) | rfl) | rfl <;> decide

example : blankCodes.length = 25 ∧ blankCodes.Pairwise (· < ·) := by decide

end DeviceRegistry.Text
