/-!
# Association lists

Pairs of a key and a value, where the first pair with a key counts and pairs keep the
places at which their keys first came up.
-/

namespace DeviceRegistry.Association

variable {α β : Type} [DecidableEq α]

/-- Gives a key a value: in its place, or at the end where it is new. -/
def assign (key : α) (value : β) : List (α × β) → List (α × β)
  | [] => [(key, value)]
  | first :: rest =>
    if first.1 = key then (key, value) :: rest else first :: assign key value rest

/-- The key has its new value, and every other key keeps its own. -/
theorem lookup_assign (key other : α) (value : β) (entries : List (α × β)) :
    (assign key value entries).lookup other =
      if other = key then some value else entries.lookup other := by
  induction entries with
  | nil =>
    by_cases same : other = key
    · simp [assign, same]
    · simp [assign, List.lookup_cons, beq_false_of_ne same, same]
  | cons first rest hypothesis =>
    obtain ⟨firstKey, firstValue⟩ := first
    by_cases atFirst : firstKey = key
    · subst atFirst
      by_cases same : other = firstKey
      · simp [assign, same]
      · simp [assign, List.lookup_cons, beq_false_of_ne same, same]
    · by_cases same : other = firstKey
      · subst same
        simp [assign, atFirst]
      · simp only [assign, atFirst, if_false, List.lookup_cons, beq_false_of_ne same, hypothesis]

end DeviceRegistry.Association
