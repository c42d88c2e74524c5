import Mathlib
import DeviceRegistry.Proofs.Ledger.Bank
import DeviceRegistry.Proofs.Ledger.Run
/-!
# Who pays for a transaction

Both fee stages of a ledger come to the same: there is one payer, who must have an
account and who is charged unless there is nothing to pay. The payer is the owner of
the first signer that is a registered device, or the first signer where none is one,
and is found before the messages of the transaction can change any owner.

So the bank of a ledger is changed by funding and by paid fees alone, and it keeps its
sum whatever becomes of the transactions, as long as all that is funded fits into a word.
-/

namespace DeviceRegistry

open Fee (Host)

/-- Who pays for what the signers have signed. -/
def payer? (store : Store) (signers : List Address) : Option Address :=
  match signers.findSome? fun signer => (Registry.device store signer).toOption with
  | some found => some found.owner
  | none => signers.head?

namespace Bank

/-- The payer is charged, unless there is nothing to pay. -/
def charge (bank : Bank) (payer : Address) (fee : Coins) : Except Fee.Error Unit × Bank :=
  match bank.account? payer with
  | none => (.error (.unknownPayer payer), bank)
  | some account =>
    if fee.isZero then (.ok (), bank)
    else
      match bank.deduct account fee with
      | (.ok (), after) => (.ok (), after)
      | (.error cause, after) => (.error (.bank cause), after)

/-- A payer with an account has paid a fee, and no other balance has changed. -/
structure Paid (before : Bank) (payer : Address) (fee : Nat) (after : Bank) : Prop where
  account : (before.account? payer).isSome
  balance : after.balance payer + fee = before.balance payer
  collected : after.collected = before.collected + fee
  others : ∀ other, other ≠ payer → after.balance other = before.balance other

variable {bank after : Bank} {payer : Address} {fee : Coins} {funded : Nat}

theorem Solvent.paid_of_charge (solvent : bank.Solvent funded) (fits : funded < 2 ^ 128)
    (charged : bank.charge payer fee = (.ok (), after)) :
    bank.Paid payer (fee.amountOf feeDenomination) after := by
  unfold charge at charged
  rcases found : bank.account? payer with _ | account
  · simp [found] at charged
  · have named := address_of_account? found
    have hasAccount : (bank.account? payer).isSome := by simp [found]
    simp only [found] at charged
    split at charged
    · rename_i zero
      cases charged
      rw [Coins.amountOf_of_isZero zero]
      exact ⟨hasAccount, rfl, rfl, fun _ _ => rfl⟩
    · rcases deducted : bank.deduct account fee with ⟨_ | ⟨⟩, next⟩
      · simp [deducted] at charged
      · simp only [deducted, Prod.mk.injEq, true_and] at charged
        subst charged
        rcases solvent.deduct_eq_ok fits deducted with ⟨left, paid, written, collected⟩
        rw [named] at paid written
        refine ⟨hasAccount, ?_, collected, ?_⟩
        · rw [balance_of_assign written, if_pos rfl, paid]
        · intro other different
          rw [balance_of_assign written, if_neg different]

theorem Solvent.charge (solvent : bank.Solvent funded) (fits : funded < 2 ^ 128)
    (payer : Address) (fee : Coins) : (bank.charge payer fee).2.Solvent funded := by
  unfold Bank.charge
  split
  · exact solvent
  · rename_i account found
    split
    · exact solvent
    · have deducted := solvent.deduct fits account fee
      split
      · rename_i after paid
        simpa [paid] using deducted
      · rename_i cause after refused
        simpa [refused] using deducted

/-! ## Fee stages -/

theorem signingDevice_host (store : Store) (signers : List Address) (bank : Bank) :
    (host store).signingDevice signers bank =
      (signers.findSome? fun signer => (Registry.device store signer).toOption, bank) := by
  induction signers with
  | nil => rfl
  | cons first rest hypothesis =>
    rw [List.findSome?_cons]
    rcases looked : Registry.device store first with error | found
    · change _ = (rest.findSome? fun signer => (Registry.device store signer).toOption, bank)
      rw [← hypothesis]
      simp only [Host.signingDevice, host, bind, StateT.bind, pure, StateT.pure, looked]
    · simp only [Host.signingDevice, host, bind, StateT.bind, pure, StateT.pure, looked,
        Except.toOption]

theorem charge_host (store : Store) (account : Account) (transaction : Transaction)
    (found : bank.account? payer = some account) :
    (host store).charge account transaction false (fun _ _ => return .ok ()) bank =
      bank.charge payer transaction.fee := by
  simp only [charge, found, Host.charge, Fee.Payable.fee]
  split
  · rfl
  · simp only [host, bind, StateT.bind]
    rcases bank.deduct account transaction.fee with ⟨_ | ⟨⟩, _⟩ <;> rfl

/-- The fee stage finds one payer and charges its account. -/
theorem payFee_eq (store : Store) (transaction : Transaction) (bank : Bank) :
    Ledger.payFee store transaction bank =
      match payer? store transaction.signers with
      | none => (.error (.rejected "transaction has no signers"), bank)
      | some payer => bank.charge payer transaction.fee := by
  have looked := signingDevice_host store transaction.signers bank
  have collector : (host store).moduleAddress Fee.collectorName bank =
      (some ⟨Text.Utf8.encode Fee.collectorName⟩, bank) := rfl
  have account (address : Address) :
      (host store).account address bank = (bank.account? address, bank) := rfl
  simp only [Ledger.payFee, Fee.delegated, bind, StateT.bind, collector, Fee.Payable.signers,
    looked]
  unfold payer?
  rcases transaction.signers.findSome? (fun signer => (Registry.device store signer).toOption)
    with _ | found
  · simp only [Fee.firstSigner, Fee.Payable.signers]
    rcases transaction.signers with _ | ⟨first, rest⟩
    · rfl
    · simp only [bind, StateT.bind, account, List.head?_cons]
      rcases opened : bank.account? first with _ | payer
      · simp only [charge, opened]
        rfl
      · exact charge_host store payer transaction opened
  · simp only [StateT.bind, account, bind]
    rcases opened : bank.account? found.owner with _ | payer
    · simp only [charge, opened]
      rfl
    · exact charge_host store payer transaction opened

theorem Solvent.paid_of_payFee (solvent : bank.Solvent funded) (fits : funded < 2 ^ 128)
    {store : Store} {transaction : Transaction}
    (paid : Ledger.payFee store transaction bank = (.ok (), after)) :
    ∃ payer, payer? store transaction.signers = some payer ∧
      bank.Paid payer (transaction.fee.amountOf feeDenomination) after := by
  rw [payFee_eq] at paid
  rcases resolved : payer? store transaction.signers with _ | payer
  · simp only [resolved] at paid
    cases paid
  · simp only [resolved] at paid
    exact ⟨payer, rfl, solvent.paid_of_charge fits paid⟩

theorem Solvent.payFee (solvent : bank.Solvent funded) (fits : funded < 2 ^ 128)
    (store : Store) (transaction : Transaction) :
    (Ledger.payFee store transaction bank).2.Solvent funded := by
  rw [payFee_eq]
  split
  · exact solvent
  · rename_i payer _
    exact solvent.charge fits payer transaction.fee

/-- A solvent bank, in which nothing is larger than what was funded. -/
structure Accounted (bank : Bank) (funded : Nat) : Prop
    extends Solvent bank funded where
  balance : ∀ address, bank.balance address ≤ funded
  collected : bank.collected ≤ funded

theorem Solvent.accounted (solvent : bank.Solvent funded) : bank.Accounted funded := by
  have conserved := solvent.conserved
  refine { solvent with balance := ?_, collected := by omega }
  intro address
  have part := bank.balance_le_held address
  omega

end Bank

namespace Ledger

variable {ledger : Ledger} {transaction : Transaction} {funded : Nat}

/-- Whatever messages do, the bank is as the fee stage has left it. -/
theorem bank_attempt (ledger : Ledger) (transaction : Transaction) :
    (ledger.attempt transaction).2.bank = (payFee ledger.store transaction ledger.bank).2 := by
  simp only [attempt, StateT.run]
  rcases payFee ledger.store transaction ledger.bank with ⟨_ | ⟨⟩, _⟩ <;> rfl

theorem solvent_attempt (solvent : ledger.bank.Solvent funded) (fits : funded < 2 ^ 128)
    (transaction : Transaction) : (ledger.attempt transaction).2.bank.Solvent funded := by
  rw [bank_attempt]
  exact solvent.payFee fits ledger.store transaction

theorem solvent_deliver (solvent : ledger.bank.Solvent funded) (fits : funded < 2 ^ 128)
    (transaction : Transaction) : (ledger.deliver transaction).2.bank.Solvent funded := by
  have tried := solvent_attempt solvent fits transaction
  unfold deliver
  split
  · rename_i events after outcome
    simpa [outcome] using tried
  · exact solvent

/-- What a command adds to the funds of a ledger. -/
def Command.funds : Command → Nat
  | fund _ amount => amount.toNat
  | deliver _ => 0

/-- The total amount that was funded. -/
def funds (commands : List Command) : Nat :=
  (commands.map Command.funds).sum

theorem solvent_run (now : Int64) {commands : List Command} (fits : funds commands < 2 ^ 128) :
    (run now commands).bank.Solvent (funds commands) := by
  -- The sum that is kept starts from any amount, so that each command may add to it.
  have kept : ∀ (ledger : Ledger) (funded : Nat), ledger.bank.Solvent funded →
      funded + funds commands < 2 ^ 128 →
      (commands.foldl Command.after ledger).bank.Solvent (funded + funds commands) := by
    clear fits
    induction commands with
    | nil =>
      intro ledger funded solvent fits
      exact solvent
    | cons first rest hypothesis =>
      intro ledger funded solvent fits
      have parts : funds (first :: rest) = first.funds + funds rest := by simp [funds]
      have next : (first.after ledger).bank.Solvent (funded + first.funds) := by
        cases first with
        | fund address amount =>
          apply solvent.fund
          rw [parts] at fits
          exact Nat.lt_of_le_of_lt (Nat.add_le_add_left (Nat.le_add_right _ _) _) fits
        | deliver transaction => exact solvent_deliver solvent (by omega) transaction
      rw [parts, ← Nat.add_assoc] at fits ⊢
      exact hypothesis (first.after ledger) (funded + first.funds) next fits
  have fromNothing := kept (new now) 0 Bank.Solvent.empty
  rw [Nat.zero_add] at fromNothing
  exact fromNothing fits

/-- How a transaction is settled by a ledger that has been funded with some amount. -/
structure Settled (ledger : Ledger) (transaction : Transaction) (funded : Nat) : Prop where
  /-- The fee of a transaction that succeeds is paid once, by who was to pay before it. -/
  paid : ∀ events, (ledger.deliver transaction).1 = .ok events →
    ∃ payer, payer? ledger.store transaction.signers = some payer ∧
      ledger.bank.Paid payer (transaction.fee.amountOf feeDenomination)
        (ledger.deliver transaction).2.bank
  /-- A transaction that fails costs nothing. -/
  spared : ∀ error, (ledger.deliver transaction).1 = .error error →
    (ledger.deliver transaction).2.bank = ledger.bank
  /-- The sum of the coins has not wrapped around. -/
  fee : transaction.fee.amountOf feeDenomination = (transaction.fee.only feeDenomination).total
  /-- The funds are all there before, between fee and messages, and after. -/
  before : ledger.bank.Accounted funded
  tried : (ledger.attempt transaction).2.bank.Accounted funded
  after : (ledger.deliver transaction).2.bank.Accounted funded

/-- A ledger settles every transaction, after any run. -/
theorem settled_of_run (now : Int64) (commands : List Command) (transaction : Transaction)
    (fundsFit : funds commands < 2 ^ 128) (feeFits : transaction.fee.total < 2 ^ 128) :
    Settled (run now commands) transaction (funds commands) := by
  have solvent := solvent_run now fundsFit
  refine {
    paid := ?_
    spared := ?_
    fee := Coins.amountOf_of_lt feeFits feeDenomination
    before := solvent.accounted
    tried := (solvent_attempt solvent fundsFit transaction).accounted
    after := (solvent_deliver solvent fundsFit transaction).accounted }
  · intro events succeeds
    rcases deliver_eq_ok succeeds with ⟨bank, store, paid, -, after⟩
    rw [after]
    exact solvent.paid_of_payFee fundsFit paid
  · intro error fails
    rw [deliver_of_error fails]

/-- A device registers itself for an owner. -/
def registration : Transaction where
  messages := [.setOwner ⟨⟨[1]⟩, ⟨[1]⟩, ⟨[2]⟩, ""⟩]
  fee := ⟨[⟨"stake", 3⟩]⟩

/-- The device is given back to itself; its owner pays, who is none afterwards. -/
def handingBack : Transaction where
  messages :=
    [.setOwner ⟨⟨[1]⟩, ⟨[2]⟩, ⟨[1]⟩, ""⟩, .addReadings ⟨⟨[1]⟩, [.new "a" 0 ⟨0⟩]⟩]
  fee := ⟨[⟨"stake", 4⟩]⟩

theorem settled_handingBack :
    ((run 0 [.fund ⟨[1]⟩ 5, .fund ⟨[2]⟩ 4, .deliver registration]).deliver
        handingBack).2.bank.balance ⟨[2]⟩ = 0 ∧
      Settled (run 0 [.fund ⟨[1]⟩ 5, .fund ⟨[2]⟩ 4, .deliver registration])
        handingBack 9 := by
  constructor
  · decide +kernel
  · apply settled_of_run 0 [.fund ⟨[1]⟩ 5, .fund ⟨[2]⟩ 4, .deliver registration]
    · decide
    · decide

end Ledger

end DeviceRegistry
