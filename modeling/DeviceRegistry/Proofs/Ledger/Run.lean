import Mathlib
import DeviceRegistry.Ledger
import DeviceRegistry.Proofs.Registry.Sound
/-!
# Runs of a ledger

A ledger starts without accounts and devices. Accounts are funded and transactions are
delivered in any order. A transaction that fails leaves the ledger as it was, and one
that succeeds has paid its fee before its messages, which all succeeded too.
-/

namespace DeviceRegistry

namespace Ledger

/-- What happens to a ledger. -/
inductive Command where
  | fund (address : Address) (amount : BitVec 128)
  | deliver (transaction : Transaction)
deriving DecidableEq, Repr

def Command.after (ledger : Ledger) : Command → Ledger
  | fund address amount => ledger.fund address amount
  | deliver transaction => (ledger.deliver transaction).2

/-- The ledger after some commands, from the start. -/
def run (now : Int64) (commands : List Command) : Ledger :=
  commands.foldl Command.after (new now)

/-- What every command preserves holds after any run. -/
theorem run_preserves (holds : Ledger → Prop) {now : Int64} {commands : List Command}
    (start : holds (new now))
    (preserves : ∀ command ∈ commands, ∀ ledger, holds ledger → holds (command.after ledger)) :
    holds (run now commands) := by
  unfold run
  generalize new now = ledger at start
  induction commands generalizing ledger with
  | nil => exact start
  | cons first rest hypothesis =>
    apply hypothesis
    · intro command member
      exact preserves command (List.mem_cons_of_mem _ member)
    · exact preserves first List.mem_cons_self ledger start

variable {ledger : Ledger} {transaction : Transaction}

theorem deliver_eq_ok {events : List Event}
    (succeeds : (ledger.deliver transaction).1 = .ok events) :
    ∃ bank store, payFee ledger.store transaction ledger.bank = (.ok (), bank) ∧
      (handleAll transaction.messages).on ledger.store = (.ok events, store) ∧
      (ledger.deliver transaction).2 = { ledger with store, bank } := by
  simp only [deliver, attempt, StateT.run] at succeeds ⊢
  rcases paid : payFee ledger.store transaction ledger.bank with ⟨_ | ⟨⟩, bank⟩
  · simp [paid] at succeeds
  · rcases handled : (handleAll transaction.messages).on ledger.store with ⟨_ | done, store⟩
    · simp [paid, handled, Except.mapError] at succeeds
    · simp only [paid, handled, Except.mapError, Except.ok.injEq] at succeeds
      subst succeeds
      exact ⟨bank, store, rfl, rfl, by simp [Except.mapError]⟩

theorem now_attempt (ledger : Ledger) (transaction : Transaction) :
    (ledger.attempt transaction).2.now = ledger.now := by
  simp only [attempt]
  rcases (payFee ledger.store transaction).run ledger.bank with ⟨cause | ⟨⟩, bank⟩ <;> rfl

/-- A transaction changes no more than the store and the bank, which are taken back. -/
theorem deliver_of_error {error : TransactionError}
    (fails : (ledger.deliver transaction).1 = .error error) :
    (ledger.deliver transaction).2 = ledger := by
  have clock := now_attempt ledger transaction
  simp only [deliver] at fails ⊢
  rcases tried : ledger.attempt transaction with ⟨_ | _, after⟩
  · have sameClock : after.now = ledger.now := by simpa only [tried] using clock
    simp only [sameClock]
  · simp [tried] at fails

end Ledger

namespace Transaction

theorem mem_foldl_addSigner {address : Address} {signers start : List Address} :
    address ∈ signers.foldl addSigner start ↔ address ∈ start ∨ address ∈ signers := by
  induction signers generalizing start with
  | nil => simp
  | cons first rest hypothesis =>
    rw [List.foldl_cons, hypothesis, addSigner, List.mem_cons]
    split
    · rename_i known
      have known : first ∈ start := by simpa using known
      constructor
      · rintro (old | later)
        · exact Or.inl old
        · exact Or.inr (Or.inr later)
      · rintro (old | rfl | later)
        · exact Or.inl old
        · exact Or.inl known
        · exact Or.inr later
    · simp [or_assoc]

theorem mem_signers {address : Address} {transaction : Transaction} :
    address ∈ transaction.signers ↔
      ∃ message ∈ transaction.messages, address ∈ message.signers := by
  simp [signers, mem_foldl_addSigner]

end Transaction

namespace Ledger

open Registry

/-- The first message that fails is the last one that is carried out. -/
theorem after_handleAll_cons (store : Store) (first : Message) (rest : List Message) :
    ((handleAll (first :: rest)).on store).2 =
      match (handle first).on store with
      | (.ok _, middle) => ((handleAll rest).on middle).2
      | (.error _, middle) => middle := by
  rw [handleAll, List.mapM_cons, Operation.on_bind]
  rcases (handle first).on store with ⟨_ | event, middle⟩
  · rfl
  · simp only [Operation.after_bind_pure, handleAll]

theorem handleAll_preserves (holds : Store → Prop) {messages : List Message} {store : Store}
    (start : holds store)
    (preserves : ∀ message ∈ messages, ∀ before, holds before →
      holds ((handle message).on before).2) :
    holds ((handleAll messages).on store).2 := by
  induction messages generalizing store with
  | nil => exact start
  | cons first rest hypothesis =>
    have next := preserves first List.mem_cons_self store start
    rw [after_handleAll_cons]
    rcases outcome : (handle first).on store with ⟨_ | event, middle⟩
    · simpa [outcome] using next
    · rw [outcome] at next
      apply hypothesis next
      intro message member
      exact preserves message (List.mem_cons_of_mem _ member)

theorem sound_handleAll {store : Store} (sound : Sound store) (messages : List Message) :
    Sound ((handleAll messages).on store).2 := by
  apply handleAll_preserves Sound sound
  intro message _ before soundBefore
  exact soundBefore.handle message

/-- The registry of a ledger keeps its invariant. -/
theorem sound_run (now : Int64) (commands : List Command) : Sound (run now commands).store := by
  apply run_preserves (fun ledger => Sound ledger.store)
  · exact Sound.empty
  · intro command _ ledger sound
    cases command with
    | fund address amount => exact sound
    | deliver transaction =>
      rw [Command.after]
      rcases outcome : (ledger.deliver transaction).1 with error | events
      · rw [deliver_of_error outcome]
        exact sound
      · rcases deliver_eq_ok outcome with ⟨bank, store, -, handled, after⟩
        have soundAfter := sound_handleAll sound transaction.messages
        rw [handled] at soundAfter
        rw [after]
        exact soundAfter

/-- A device registers itself for an owner, who gives it a channel. -/
def registering : Transaction where
  messages :=
    [.setOwner ⟨⟨[1]⟩, ⟨[1]⟩, ⟨[2]⟩, ""⟩,
      .updateChannels ⟨⟨[2]⟩, ⟨[1]⟩, [.assign "a" "temperature"]⟩]
  fee := ⟨[⟨feeDenomination, 3⟩]⟩

/-- The device is given away, and its former owner comes too late to edit it. -/
def comingTooLate : Transaction where
  messages :=
    [.setOwner ⟨⟨[1]⟩, ⟨[2]⟩, ⟨[4]⟩, ""⟩, .updateChannels ⟨⟨[2]⟩, ⟨[1]⟩, [.remove "a"]⟩]
  fee := ⟨[⟨feeDenomination, 2⟩]⟩

/-- The device is given away and edited by its new owner. Of its readings, which are of two
channels, one is sent twice. -/
def changingHands : Transaction where
  messages :=
    [.setOwner ⟨⟨[1]⟩, ⟨[2]⟩, ⟨[3]⟩, ""⟩,
      .updateChannels ⟨⟨[3]⟩, ⟨[1]⟩, [.assign "b" "noise"]⟩,
      .addReadings ⟨⟨[1]⟩, [.new "a" 86400 ⟨0⟩, .new "b" 7 ⟨0⟩, .new "a" 86400 ⟨1⟩]⟩]
  fee := ⟨[⟨feeDenomination, 4⟩]⟩

/-- The second delivery fails, after it has been paid for and its first message has written. -/
def withFailure : List Command :=
  [.fund ⟨[1]⟩ 5, .fund ⟨[2]⟩ 9, .deliver registering, .deliver comingTooLate]

end Ledger

end DeviceRegistry
