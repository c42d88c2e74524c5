/-!
# Computations that may fail

A computation of two steps has a result if the first step has one and the second step has one
for it. So what is known of a result can be taken apart, step by step.
-/

namespace DeviceRegistry

variable {ε α β : Type}

theorem bind_eq_ok {first : Except ε α} {next : α → Except ε β} {result : β} :
    first >>= next = .ok result ↔ ∃ value, first = .ok value ∧ next value = .ok result := by
  cases first with
  | error fault => simp [bind, Except.bind]
  | ok value => simp [bind, Except.bind]

/-- Two checks pass together if each of them passes. -/
theorem checks_eq_ok {first second : Except ε Unit} :
    (first >>= fun _ => second) = .ok () ↔ first = .ok () ∧ second = .ok () := by
  rw [bind_eq_ok]
  constructor
  · rintro ⟨_, passed, others⟩
    exact ⟨passed, others⟩
  · rintro ⟨passed, others⟩
    exact ⟨(), passed, others⟩

end DeviceRegistry
