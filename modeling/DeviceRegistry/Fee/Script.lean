import DeviceRegistry.Fee.Stage
import DeviceRegistry.Registry.Basic
/-!
# A scripted host for the fee stage

A host that answers from a script and notes every call, so that the order of the calls
of the fee stage can be looked at.
-/

namespace DeviceRegistry.Fee

/-- A call of the fee stage. -/
inductive Call where
  | moduleAddress (name : String)
  | device (address : Address)
  | account (address : Address)
  | deduct (payer : Account) (fee : Coins)
  | fallback (simulate : Bool)
  | next (simulate : Bool)
deriving DecidableEq, Repr

/-- What a scripted host answers. -/
structure Script where
  /-- Where devices are looked up. -/
  store : Store
  /-- Who has an account; the place in the list is its number. -/
  accounts : List Address
  hasCollector : Bool
  /-- How a charge fails, if it does. -/
  deductFailure : Option (Account → Coins → BankError)
  /-- Why the other fee stage refuses, if it does. -/
  fallbackFailure : Option Error

/-- What a scripted host has seen. -/
structure Seen where
  /-- The calls, the latest one first. -/
  calls : List Call
  /-- How many charges went through. -/
  charged : Nat
  /-- How often the other fee stage ran. -/
  fallbacks : Nat
deriving Repr

namespace Seen

def nothing : Seen := ⟨[], 0, 0⟩

def note (seen : Seen) (call : Call) : Seen :=
  { seen with calls := call :: seen.calls }

end Seen

/-- A transaction that a script knows in full. -/
structure ScriptedTransaction where
  signers : List Address
  fee : Coins
  /-- Why the rest of the chain refuses, if it does. -/
  nextFailure : Option Error

instance : Payable ScriptedTransaction where
  signers transaction := transaction.signers
  fee transaction := transaction.fee

namespace Script

/-- The host that follows a script. -/
def host (script : Script) : Host (StateM Seen) where
  device address := do
    modify (·.note (.device address))
    return Registry.device script.store address
  account address := do
    modify (·.note (.account address))
    return (script.accounts.idxOf? address).map fun number =>
      Account.new address (UInt64.ofNat number)
  moduleAddress name := do
    modify (·.note (.moduleAddress name))
    return if script.hasCollector && name = collectorName then
      some ⟨Text.Utf8.encode collectorName⟩ else none
  deduct payer fee := do
    modify (·.note (.deduct payer fee))
    match script.deductFailure with
    | some failure => return .error (failure payer fee)
    | none =>
      modify fun seen => { seen with charged := seen.charged + 1 }
      return .ok ()

/-- The other fee stage of a script. -/
def fallback (script : Script) : Stage (StateM Seen) ScriptedTransaction :=
  fun transaction simulate next => do
    modify (·.note (.fallback simulate))
    modify fun seen => { seen with fallbacks := seen.fallbacks + 1 }
    match script.fallbackFailure with
    | some failure => return .error failure
    | none => next transaction simulate

/-- The rest of the chain of a scripted transaction. -/
def next : Next (StateM Seen) ScriptedTransaction :=
  fun transaction simulate => do
    modify (·.note (.next simulate))
    match transaction.nextFailure with
    | some failure => return .error failure
    | none => return .ok ()

def run (script : Script) (transaction : ScriptedTransaction) (simulate : Bool) :
    StateM Seen (Except Error Unit) :=
  delegated script.host script.fallback transaction simulate next

end Script

end DeviceRegistry.Fee
