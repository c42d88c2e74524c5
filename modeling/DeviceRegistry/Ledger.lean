import DeviceRegistry.Association
import DeviceRegistry.Fee.Stage
import DeviceRegistry.Query
import DeviceRegistry.Registry.Handle
/-!
# A ledger around the registry

A bank of accounts, a registry and a clock. A transaction first passes the fee stage,
with the fee of the first signer where no device signs; then its messages are carried
out one after the other. If anything fails, the ledger is as it was before.

Fees are paid in one denomination. Balances are words of 128 bits, as amounts are, and
what is added to them wraps around.
-/

namespace DeviceRegistry

def feeDenomination : String := "stake"

/-- Accounts and what they hold. -/
structure Bank where
  /-- The accounts, in the order in which they were opened. -/
  accounts : List Account
  /-- What each address holds, in the order in which it was first named. -/
  balances : List (Address × BitVec 128)
  /-- The sum of the fees that were paid. -/
  fees : BitVec 128
deriving DecidableEq, Repr, Inhabited

namespace Bank

def empty : Bank := ⟨[], [], 0⟩

def account? (bank : Bank) (address : Address) : Option Account :=
  bank.accounts.find? fun account => account.address = address

/-- What an address holds, which is nothing where it has no balance. -/
def holding (bank : Bank) (address : Address) : BitVec 128 :=
  (bank.balances.lookup address).getD 0

def balance (bank : Bank) (address : Address) : Nat :=
  (bank.holding address).toNat

def collected (bank : Bank) : Nat :=
  bank.fees.toNat

/-- Opens an account where there is none, and adds to what the address holds. -/
def fund (bank : Bank) (address : Address) (amount : BitVec 128) : Bank where
  accounts :=
    if (bank.account? address).isSome then bank.accounts
    else bank.accounts ++ [.new address (UInt64.ofNat bank.accounts.length)]
  balances := Association.assign address (bank.holding address + amount) bank.balances
  fees := bank.fees

/-- Takes a fee from an account, which has a balance from then on, be it nothing. -/
def deduct (bank : Bank) (payer : Account) (fee : Coins) : Except Fee.BankError Unit × Bank :=
  if fee.coins.any fun coin => coin.denomination ≠ feeDenomination then
    (.error (.invalidFee fee.display), bank)
  else
    let required := (fee.only feeDenomination).sum
    let held := bank.holding payer.address
    if held < required then
      (.error (.insufficientFunds payer.address fee),
        { bank with balances := Association.assign payer.address held bank.balances })
    else
      (.ok (),
        { bank with
          balances := Association.assign payer.address (held - required) bank.balances
          fees := bank.fees + required })

/-- The bank and a registry as the host of the fee stage. -/
def host (store : Store) : Fee.Host (StateM Bank) where
  device address := return Registry.device store address
  account address := return (← get).account? address
  moduleAddress name :=
    return if name = Fee.collectorName then some ⟨Text.Utf8.encode Fee.collectorName⟩ else none
  deduct payer fee := fun bank => bank.deduct payer fee

end Bank

/-- Messages that are carried out together, and what is paid for them. -/
structure Transaction where
  messages : List Message
  fee : Coins
deriving DecidableEq, Repr

namespace Transaction

/-- A list with one more address, unless it is there already. -/
def addSigner (signers : List Address) (signer : Address) : List Address :=
  if signers.contains signer then signers else signers ++ [signer]

/-- Who signs a transaction: the signers of its messages, each once, in order. -/
def signers (transaction : Transaction) : List Address :=
  (transaction.messages.flatMap Message.signers).foldl addSigner []

instance : Fee.Payable Transaction where
  signers := signers
  fee transaction := transaction.fee

end Transaction

/-- Why a transaction failed. -/
inductive TransactionError where
  | fee (cause : Fee.Error)
  | message (cause : RegistryError)
deriving DecidableEq, Repr

/-- A bank, a registry and a clock. -/
structure Ledger where
  store : Store
  bank : Bank
  now : Int64
deriving DecidableEq, Repr

namespace Ledger

def new (now : Int64) : Ledger :=
  ⟨.empty, .empty, now⟩

/-- Opens an account where there is none, and adds to what the address holds. -/
def fund (ledger : Ledger) (address : Address) (amount : BitVec 128) : Ledger :=
  { ledger with bank := ledger.bank.fund address amount }

def setClock (ledger : Ledger) (now : Int64) : Ledger :=
  { ledger with now }

/-- The fee stage of the ledger; nothing comes after it. -/
def payFee (store : Store) (transaction : Transaction) : StateM Bank (Except Fee.Error Unit) :=
  Fee.delegated (Bank.host store) (Fee.firstSigner (Bank.host store)) transaction false
    fun _ _ => return .ok ()

/-- Carries out messages one after the other, up to the first one that fails. -/
def handleAll (messages : List Message) : Operation (List Event) :=
  messages.mapM Registry.handle

/-- Pays and carries out the messages, and keeps what was written even on failure. -/
def attempt (ledger : Ledger) (transaction : Transaction) :
    Except TransactionError (List Event) × Ledger :=
  let (paid, bank) := (payFee ledger.store transaction).run ledger.bank
  match paid with
  | .error cause => (.error (.fee cause), { ledger with bank })
  | .ok () =>
    let (handled, store) := (handleAll transaction.messages).on ledger.store
    (handled.mapError .message, { ledger with store, bank })

/-- Pays and carries out the messages, and takes store and bank back if anything fails. -/
def deliver (ledger : Ledger) (transaction : Transaction) :
    Except TransactionError (List Event) × Ledger :=
  match ledger.attempt transaction with
  | (.ok events, after) => (.ok events, after)
  | (.error error, after) =>
    (.error error, { after with store := ledger.store, bank := ledger.bank })

end Ledger

end DeviceRegistry
