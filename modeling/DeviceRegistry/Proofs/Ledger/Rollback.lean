import Mathlib
import DeviceRegistry.Proofs.Ledger.Run
/-!
# Failed deliveries can be left out of a run

A delivery that fails may have taken a fee and carried out the messages before the one that
failed. All of it is taken back, so nothing that comes later can tell whether there was such
a delivery. A run is therefore the same without its failures: every other deed has the same
answer and leaves the same ledger behind, and the run ends in the same ledger.

The deeds of a run are those of an owner of a ledger, who may also set its clock.
-/

namespace DeviceRegistry.Ledger

/-- What is done to a ledger. -/
inductive Deed where
  | fund (address : Address) (amount : BitVec 128)
  | setClock (now : Int64)
  | deliver (transaction : Transaction)
deriving DecidableEq, Repr

/-- What is answered to a deed; only deliveries can fail. -/
inductive Answer where
  | done
  | delivered (events : List Event)
  | failed (error : TransactionError)
deriving DecidableEq, Repr

/-- A deed of a run, its answer, and the ledger after it. -/
structure Entry where
  deed : Deed
  answer : Answer
  after : Ledger
deriving DecidableEq, Repr

/-- Whether the deed has failed. -/
def Entry.isFailure (entry : Entry) : Bool :=
  match entry.answer with
  | .failed _ => true
  | _ => false

/-- Does a deed to a ledger. -/
def Deed.entry (ledger : Ledger) : Deed → Entry
  | fund address amount => ⟨fund address amount, .done, ledger.fund address amount⟩
  | setClock now => ⟨setClock now, .done, ledger.setClock now⟩
  | deliver transaction =>
    match ledger.deliver transaction with
    | (.ok events, after) => ⟨deliver transaction, .delivered events, after⟩
    | (.error error, after) => ⟨deliver transaction, .failed error, after⟩

/-- The entries of deeds one after the other. -/
def history (ledger : Ledger) : List Deed → List Entry
  | [] => []
  | deed :: rest => deed.entry ledger :: history (deed.entry ledger).after rest

/-- The ledger after deeds one after the other. -/
def outcome (ledger : Ledger) (deeds : List Deed) : Ledger :=
  deeds.foldl (fun ledger deed => (deed.entry ledger).after) ledger

/-- The entries of the deeds that do not fail. -/
def kept (ledger : Ledger) (deeds : List Deed) : List Entry :=
  (history ledger deeds).filter fun entry => !entry.isFailure

variable {ledger : Ledger} {deed : Deed}

@[simp]
theorem deed_entry (ledger : Ledger) (deed : Deed) : (deed.entry ledger).deed = deed := by
  cases deed with
  | fund address amount => rfl
  | setClock now => rfl
  | deliver transaction =>
    simp only [Deed.entry]
    split <;> rfl

/-- A deed that fails leaves the ledger as it was, wherever the failure has come from. -/
theorem after_entry_of_isFailure (failed : (deed.entry ledger).isFailure = true) :
    (deed.entry ledger).after = ledger := by
  cases deed with
  | fund address amount => contradiction
  | setClock now => contradiction
  | deliver transaction =>
    rcases delivered : ledger.deliver transaction with ⟨error | events, after⟩
    · have same := deliver_of_error (congrArg Prod.fst delivered)
      rw [delivered] at same
      simpa only [Deed.entry, delivered] using same
    · simp [Entry.isFailure, Deed.entry, delivered] at failed

theorem kept_cons_of_isFailure (failed : (deed.entry ledger).isFailure = true)
    (rest : List Deed) : kept ledger (deed :: rest) = kept ledger rest := by
  simp only [kept, history, List.filter_cons, failed, Bool.not_true, Bool.false_eq_true, if_false,
    after_entry_of_isFailure failed]

theorem kept_cons (done : (deed.entry ledger).isFailure = false) (rest : List Deed) :
    kept ledger (deed :: rest) = deed.entry ledger :: kept (deed.entry ledger).after rest := by
  simp only [kept, history, List.filter_cons, done, Bool.not_false, if_true]

/-- The deeds that do not fail make the same history without the others. -/
theorem history_kept (ledger : Ledger) (deeds : List Deed) :
    history ledger ((kept ledger deeds).map Entry.deed) = kept ledger deeds := by
  induction deeds generalizing ledger with
  | nil => rfl
  | cons first rest hypothesis =>
    cases failed : (first.entry ledger).isFailure with
    | true => rw [kept_cons_of_isFailure failed, hypothesis]
    | false =>
      rw [kept_cons failed, List.map_cons, deed_entry, history, hypothesis]

theorem outcome_kept (ledger : Ledger) (deeds : List Deed) :
    outcome ledger ((kept ledger deeds).map Entry.deed) = outcome ledger deeds := by
  induction deeds generalizing ledger with
  | nil => rfl
  | cons first rest hypothesis =>
    rw [outcome, outcome, List.foldl_cons, ← outcome, ← outcome]
    cases failed : (first.entry ledger).isFailure with
    | true => rw [kept_cons_of_isFailure failed, hypothesis, after_entry_of_isFailure failed]
    | false =>
      rw [kept_cons failed, List.map_cons, deed_entry, ← hypothesis]
      rfl

/-- A run is the same without the deliveries that fail in it. -/
theorem run_without_failures (now : Int64) (deeds : List Deed) :
    history (new now) ((kept (new now) deeds).map Entry.deed) = kept (new now) deeds ∧
      outcome (new now) ((kept (new now) deeds).map Entry.deed) = outcome (new now) deeds :=
  ⟨history_kept (new now) deeds, outcome_kept (new now) deeds⟩

/-- A device is given an owner, and then another one by the device, which is not its own owner. -/
def handedOverTwice : Transaction where
  messages := [.setOwner ⟨⟨[1]⟩, ⟨[1]⟩, ⟨[2]⟩, ""⟩, .setOwner ⟨⟨[1]⟩, ⟨[1]⟩, ⟨[3]⟩, ""⟩]
  fee := ⟨[⟨feeDenomination, 5⟩]⟩

-- The first message has written and the fee is taken when the second message fails.
example :
    let funded := (new 0).fund ⟨[1]⟩ 9
    (funded.attempt handedOverTwice).2.store ≠ funded.store ∧
      (funded.attempt handedOverTwice).2.bank.collected = 5 ∧
      ((Deed.deliver handedOverTwice).entry funded).isFailure = true := by
  decide +kernel

end DeviceRegistry.Ledger
