import Mathlib
import DeviceRegistry.Ledger
/-!
# What a bank holds

The balances of a bank are a list with one entry for each address, so that their sum is
what all addresses hold together. An entry that is written replaces what its address
held before, or comes last.

Funding adds to the sum. A fee leaves the sum and what was collected as large as they
were together, whether it is paid or refused: it is taken only from an address that
holds as much.

The sums of this theory are numbers, and those of the bank are words. As long as all
that was ever funded fits into a word, no addition of the bank wraps around, and the
two agree.
-/

namespace DeviceRegistry

namespace Association

variable {α β : Type} [DecidableEq α]

theorem keys_assign (key : α) (value : β) (entries : List (α × β)) :
    (assign key value entries).map Prod.fst =
      if key ∈ entries.map Prod.fst then entries.map Prod.fst
      else entries.map Prod.fst ++ [key] := by
  induction entries with
  | nil => simp [assign]
  | cons first rest hypothesis =>
    by_cases same : first.1 = key
    · simp [assign, same]
    · have different : ¬key = first.1 := fun equal => same equal.symm
      simp only [assign, same, if_false, List.map_cons, hypothesis, List.mem_cons, different,
        false_or]
      split <;> rfl

theorem nodup_keys_assign (key : α) (value : β) {entries : List (α × β)}
    (distinct : (entries.map Prod.fst).Nodup) :
    ((assign key value entries).map Prod.fst).Nodup := by
  rw [keys_assign]
  split
  · exact distinct
  · rename_i new
    rw [← List.concat_eq_append, List.nodup_concat]
    exact ⟨new, distinct⟩

/-- A new value takes the place of the old one in the sum. -/
theorem sum_assign (key : α) (value : BitVec 128) (entries : List (α × BitVec 128)) :
    ((assign key value entries).map fun entry => entry.2.toNat).sum +
        ((entries.lookup key).getD 0).toNat =
      (entries.map fun entry => entry.2.toNat).sum + value.toNat := by
  induction entries with
  | nil => simp [assign]
  | cons first rest hypothesis =>
    rcases first with ⟨firstKey, firstValue⟩
    by_cases same : firstKey = key
    · simp [assign, same]
      omega
    · have different : ¬key = firstKey := fun equal => same equal.symm
      simp only [assign, same, if_false, List.map_cons, List.sum_cons, List.lookup_cons,
        beq_false_of_ne different]
      omega

end Association

namespace Bank

variable {bank : Bank} {funded : Nat}

/-- What all addresses hold together. -/
def held (bank : Bank) : Nat :=
  (bank.balances.map fun entry => entry.2.toNat).sum

/-- Every address has one balance, and what was funded is held or was collected. -/
structure Solvent (bank : Bank) (funded : Nat) : Prop where
  distinct : (bank.balances.map Prod.fst).Nodup
  conserved : bank.held + bank.collected = funded

theorem held_of_assign {after : Bank} {address : Address} {amount : BitVec 128}
    (written : after.balances = Association.assign address amount bank.balances) :
    after.held + bank.balance address = bank.held + amount.toNat := by
  rw [held, written]
  exact Association.sum_assign address amount bank.balances

theorem balance_le_held (bank : Bank) (address : Address) : bank.balance address ≤ bank.held := by
  have emptied := Association.sum_assign address 0 bank.balances
  rw [← held, ← holding, ← balance] at emptied
  exact Nat.le.intro ((Nat.add_comm _ _).trans emptied)

theorem balance_of_assign {after : Bank} {address : Address} {amount : BitVec 128}
    (written : after.balances = Association.assign address amount bank.balances)
    (other : Address) :
    after.balance other = if other = address then amount.toNat else bank.balance other := by
  rw [balance, holding, written, Association.lookup_assign]
  split <;> rfl

theorem Solvent.empty : Solvent .empty 0 where
  distinct := List.nodup_nil
  conserved := rfl

/-- An amount that fits in with what was funded before is added as a number. -/
theorem Solvent.toNat_add (solvent : bank.Solvent funded) (address : Address)
    {amount : BitVec 128} (fits : funded + amount.toNat < 2 ^ 128) :
    (bank.holding address + amount).toNat = bank.balance address + amount.toNat := by
  have part := bank.balance_le_held address
  have conserved := solvent.conserved
  apply BitVec.toNat_add_of_lt
  rw [← balance]
  omega

theorem Solvent.fund (solvent : bank.Solvent funded) (address : Address) {amount : BitVec 128}
    (fits : funded + amount.toNat < 2 ^ 128) :
    (bank.fund address amount).Solvent (funded + amount.toNat) where
  distinct := Association.nodup_keys_assign _ _ solvent.distinct
  conserved := by
    have conserved := solvent.conserved
    have more : (bank.fund address amount).held + bank.balance address =
        bank.held + (bank.holding address + amount).toNat := held_of_assign rfl
    rw [solvent.toNat_add address fits] at more
    have sameCollected : (bank.fund address amount).collected = bank.collected := rfl
    omega

/-- A fee that is paid was there to be paid, and no sum has wrapped around. -/
theorem Solvent.deduct_eq_ok (solvent : bank.Solvent funded) (fits : funded < 2 ^ 128)
    {payer : Account} {fee : Coins} {after : Bank}
    (paid : bank.deduct payer fee = (.ok (), after)) :
    ∃ left : BitVec 128,
      left.toNat + fee.amountOf feeDenomination = bank.balance payer.address ∧
        after.balances = Association.assign payer.address left bank.balances ∧
        after.collected = bank.collected + fee.amountOf feeDenomination := by
  unfold deduct at paid
  split at paid
  · simp at paid
  · dsimp only at paid
    split at paid
    · simp at paid
    · rename_i enough
      cases paid
      have conserved := solvent.conserved
      have part := bank.balance_le_held payer.address
      have there : fee.amountOf feeDenomination ≤ bank.balance payer.address :=
        Nat.le_of_not_lt enough
      refine ⟨bank.holding payer.address - (fee.only feeDenomination).sum, ?_, rfl, ?_⟩
      · rw [BitVec.toNat_sub_of_le there]
        exact Nat.sub_add_cancel there
      · apply BitVec.toNat_add_of_lt
        simp only [collected, Coins.amountOf] at conserved there
        omega

/-- A fee that is refused is not taken, though a payer without a balance has one of nothing. -/
theorem deduct_eq_error {payer : Account} {fee : Coins} {cause : Fee.BankError} {after : Bank}
    (refused : bank.deduct payer fee = (.error cause, after)) :
    after = bank ∨ after.fees = bank.fees ∧
      after.balances =
        Association.assign payer.address (bank.holding payer.address) bank.balances := by
  unfold deduct at refused
  split at refused
  · cases refused
    exact Or.inl rfl
  · dsimp only at refused
    split at refused
    · cases refused
      exact Or.inr ⟨rfl, rfl⟩
    · simp at refused

/-- A fee moves from a balance to what was collected, or nothing moves. -/
theorem Solvent.deduct (solvent : bank.Solvent funded) (fits : funded < 2 ^ 128)
    (payer : Account) (fee : Coins) : (bank.deduct payer fee).2.Solvent funded := by
  have conserved := solvent.conserved
  rcases outcome : bank.deduct payer fee with ⟨cause | ⟨⟩, after⟩
  · rcases deduct_eq_error outcome with rfl | ⟨sameFees, written⟩
    · exact solvent
    · have same : after.held = bank.held := Nat.add_right_cancel (held_of_assign written)
      constructor
      · rw [written]
        exact Association.nodup_keys_assign _ _ solvent.distinct
      · rwa [same, collected, sameFees]
  · rcases solvent.deduct_eq_ok fits outcome with ⟨left, paid, written, collected⟩
    have less := held_of_assign written
    constructor
    · rw [written]
      exact Association.nodup_keys_assign _ _ solvent.distinct
    · simp only
      omega

theorem address_of_account? {address : Address} {account : Account}
    (found : bank.account? address = some account) : account.address = address := by
  simpa using List.find?_some found

end Bank

namespace Coins

/-- The sum of all amounts as a number, which may be larger than any amount. -/
def total (coins : Coins) : Nat :=
  (coins.coins.map fun coin => coin.amount.toNat).sum

theorem toNat_sum_of_lt {coins : Coins} (fits : coins.total < 2 ^ 128) :
    coins.sum.toNat = coins.total := by
  rcases coins with ⟨coins⟩
  simp only [sum, total] at fits ⊢
  induction coins with
  | nil => rfl
  | cons first rest hypothesis =>
    simp only [List.map_cons, List.sum_cons, List.foldr_cons] at fits ⊢
    have others := hypothesis (by omega)
    rw [BitVec.toNat_add_of_lt, others]
    rw [others]
    exact fits

theorem total_only_le (coins : Coins) (denomination : String) :
    (coins.only denomination).total ≤ coins.total := by
  rcases coins with ⟨coins⟩
  simp only [only, total]
  induction coins with
  | nil => exact Nat.le_refl 0
  | cons first rest hypothesis =>
    rw [List.filter_cons]
    split <;> simp <;> omega

/-- Where all coins together fit into a word, so do those of one denomination. -/
theorem amountOf_of_lt {coins : Coins} (fits : coins.total < 2 ^ 128) (denomination : String) :
    coins.amountOf denomination = (coins.only denomination).total := by
  apply toNat_sum_of_lt
  exact Nat.lt_of_le_of_lt (total_only_le coins denomination) fits

/-- Of a larger sum only the last 128 bits are asked for. -/
example : amountOf ⟨[⟨"stake", -1⟩, ⟨"stake", 3⟩]⟩ "stake" = 2 := by decide

theorem amountOf_of_isZero {coins : Coins} (zero : coins.isZero = true) (denomination : String) :
    coins.amountOf denomination = 0 := by
  have nothing : coins.total = 0 := by
    simpa [isZero, total, List.sum_eq_zero_iff, BitVec.toNat_eq] using zero
  have part := coins.total_only_le denomination
  rw [amountOf_of_lt (by omega)]
  omega

end Coins

end DeviceRegistry
