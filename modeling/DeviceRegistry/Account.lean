import DeviceRegistry.Binary.Codec
import DeviceRegistry.Json.Form
/-!
# Accounts

What the host ledger knows of an account apart from its balance.
-/

namespace DeviceRegistry

open Binary (Codec)
open Json (Form)

/-- An account of the host ledger. -/
structure Account where
  address : Address
  /-- How many accounts were opened before this one. -/
  number : UInt64
  sequence : UInt64
deriving DecidableEq, Repr, Inhabited

namespace Account

/-- An account that was not used yet. -/
def new (address : Address) (number : UInt64) : Account :=
  ⟨address, number, 0⟩

instance : Layout Account (Address × UInt64 × UInt64 × Unit) where
  toFields account := (account.address, account.number, account.sequence, ())
  ofFields | (address, number, sequence, ()) => ⟨address, number, sequence⟩

instance : Codec Account := .ofLayout

instance : Form Account :=
  .ofFields (.required "address" <| .required "account_number" <| .required "sequence" .nil)

end Account

end DeviceRegistry
