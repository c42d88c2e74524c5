/-!
# Splitting texts

A text with a separator in it is a list of pieces. There is one piece more than there
are separators, and pieces may be empty, so that nothing is lost: the pieces with the
separator between them are the text.
-/

namespace DeviceRegistry.Text

/-- The pieces of a text between the occurrences of a separator. -/
def split (separator : Char) : List Char → List (List Char)
  | [] => [[]]
  | character :: rest =>
    if character = separator then [] :: split separator rest
    else
      match split separator rest with
      | [] => [[character]]
      | first :: others => (character :: first) :: others

theorem split_ne_nil (separator : Char) (characters : List Char) :
    split separator characters ≠ [] := by
  cases characters with
  | nil => simp [split]
  | cons character rest =>
    simp only [split]
    split
    · simp
    · split <;> simp

/-- The pieces with the separator between them are the text. -/
theorem intercalate_split (separator : Char) (characters : List Char) :
    List.intercalate [separator] (split separator characters) = characters := by
  induction characters with
  | nil => rfl
  | cons character rest hypothesis =>
    have someRest := split_ne_nil separator rest
    simp only [split]
    split
    · rename_i same
      cases pieces : split separator rest with
      | nil => exact absurd pieces someRest
      | cons first others =>
        rw [pieces] at hypothesis
        simp [List.intercalate_cons_cons, hypothesis, same]
    · cases pieces : split separator rest with
      | nil => exact absurd pieces someRest
      | cons first others =>
        rw [pieces] at hypothesis
        cases others with
        | nil => simpa using hypothesis
        | cons second others =>
          simp only [List.intercalate_cons_cons] at hypothesis ⊢
          simp [hypothesis]

end DeviceRegistry.Text
