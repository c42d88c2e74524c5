import DeviceRegistry.Account
import DeviceRegistry.Coin
import DeviceRegistry.Device
import DeviceRegistry.Error
/-!
# The fee stage

Before its messages are carried out, a transaction passes a chain of stages, each of
which decides whether the next one runs. The stage here makes the owner of a device
pay for the device: it looks for the first signer that is a registered device and
charges its owner. Where no signer is one, it hands the transaction to another fee
stage, unchanged.

The stage reaches its host through a record of operations in a monad. It needs nothing
of the monad but that operations follow each other, so its behaviour can be stated for
every host.
-/

namespace DeviceRegistry.Fee

def collectorName : String := "fee_collector"

/-- Why the bank refuses to charge an account. -/
inductive BankError where
  | insufficientFunds (payer : Address) (required : Coins)
  | invalidFee (reason : String)
deriving DecidableEq, Repr

def BankError.message : BankError → String
  | .insufficientFunds payer required =>
    s!"Insufficient funds: account {payer} cannot pay " ++ required.display
  | .invalidFee reason => "Invalid fee: " ++ reason

/-- Why a transaction does not pass the stages. -/
inductive Error where
  | collectorNotSet (name : String)
  /-- Who is to pay has no account. -/
  | unknownPayer (address : Address)
  | registry (cause : RegistryError)
  | bank (cause : BankError)
  /-- A reason that another stage gives. -/
  | rejected (reason : String)
deriving DecidableEq, Repr

def Error.message : Error → String
  | .collectorNotSet name => name ++ " module account has not been set"
  | .unknownPayer address => s!"Unknown address: fee payer address {address} does not exist"
  | .registry cause => cause.message
  | .bank cause => cause.message
  | .rejected reason => "Ante stage rejected transaction: " ++ reason

/-- What a stage needs to know of a transaction. -/
class Payable (τ : Type) where
  /-- Who signs, in the order of the declaration. -/
  signers : τ → List Address
  /-- What is to be paid. -/
  fee : τ → Coins

/-- What the stage asks of its host. -/
structure Host (m : Type → Type) where
  device : Address → m (Except RegistryError Device)
  account : Address → m (Option Account)
  moduleAddress : String → m (Option Address)
  deduct : Account → Coins → m (Except BankError Unit)

/-- The rest of the chain. The flag says whether the transaction is only simulated. -/
abbrev Next (m : Type → Type) (τ : Type) := τ → (simulate : Bool) → m (Except Error Unit)

/-- A stage: it may run the rest of the chain. -/
abbrev Stage (m : Type → Type) (τ : Type) :=
  τ → (simulate : Bool) → Next m τ → m (Except Error Unit)

variable {m : Type → Type} [Monad m]

/-- The first signer that is a registered device. A look-up that fails is passed over. -/
def Host.signingDevice (host : Host m) : List Address → m (Option Device)
  | [] => return none
  | signer :: signers => do
    match ← host.device signer with
    | .ok device => return some device
    | .error _ => host.signingDevice signers

/-- Charges an account, unless there is nothing to pay, and runs the rest of the chain. -/
def Host.charge {τ : Type} [Payable τ] (host : Host m) (payer : Account) (transaction : τ)
    (simulate : Bool) (next : Next m τ) : m (Except Error Unit) := do
  if (Payable.fee transaction).isZero then
    next transaction simulate
  else
    match ← host.deduct payer (Payable.fee transaction) with
    | .ok () => next transaction simulate
    | .error cause => return .error (.bank cause)

/-- Charges the owner of the first signing device, or leaves the fee to another stage. -/
def delegated {τ : Type} [Payable τ] (host : Host m) (fallback : Stage m τ) : Stage m τ :=
  fun transaction simulate next => do
    match ← host.moduleAddress collectorName with
    | none => return .error (.collectorNotSet collectorName)
    | some _ =>
      match ← host.signingDevice (Payable.signers transaction) with
      | none => fallback transaction simulate next
      | some device =>
        match ← host.account device.owner with
        | none => return .error (.unknownPayer device.owner)
        | some payer => host.charge payer transaction simulate next

/-- Charges the first signer. -/
def firstSigner {τ : Type} [Payable τ] (host : Host m) : Stage m τ :=
  fun transaction simulate next => do
    match Payable.signers transaction with
    | [] => return .error (.rejected "transaction has no signers")
    | first :: _ =>
      match ← host.account first with
      | none => return .error (.unknownPayer first)
      | some payer => host.charge payer transaction simulate next

end DeviceRegistry.Fee
