import DeviceRegistry.Binary.Codec
import DeviceRegistry.Json.Form
/-!
# Coins

A fee is a list of coins. Several coins may have one denomination; what counts is
their sum. Amounts are words of 128 bits and so are their sums, which wrap around.
-/

namespace DeviceRegistry

open Binary (Codec)
open Json (Form)

/-- An amount of one denomination. -/
structure Coin where
  denomination : String
  amount : BitVec 128
deriving DecidableEq, Repr, Inhabited

namespace Coin

/-- The amount and then the denomination. -/
def display (coin : Coin) : String :=
  toString coin.amount.toNat ++ coin.denomination

instance : Layout Coin (String × BitVec 128 × Unit) where
  toFields coin := (coin.denomination, coin.amount, ())
  ofFields | (denomination, amount, ()) => ⟨denomination, amount⟩

instance : Codec Coin := .ofLayout

instance : Form Coin :=
  .ofFields (.required "denom" <| .required "amount" .nil)

end Coin

/-- A list of coins. -/
structure Coins where
  coins : List Coin
deriving DecidableEq, Repr, Inhabited

namespace Coins

def zero : Coins := ⟨[]⟩

def isZero (coins : Coins) : Bool :=
  coins.coins.all fun coin => coin.amount = 0

/-- The coins of one denomination. -/
def only (coins : Coins) (denomination : String) : Coins :=
  ⟨coins.coins.filter fun coin => coin.denomination = denomination⟩

/-- The sum of all amounts, which is as wide as they are. -/
def sum (coins : Coins) : BitVec 128 :=
  coins.coins.foldr (fun coin sum => coin.amount + sum) 0

def amountOf (coins : Coins) (denomination : String) : Nat :=
  (coins.only denomination).sum.toNat

/-- The coins one after the other, with commas between them. -/
def display (coins : Coins) : String :=
  String.intercalate "," (coins.coins.map Coin.display)

instance : Codec Coins where
  encode coins := Codec.encode coins.coins
  decode bytes := do
    let (coins, rest) ← Codec.decode bytes
    return (⟨coins⟩, rest)

instance : Form Coins where
  toJson coins := Form.toJson coins.coins
  ofOutline outline := (Form.ofOutline outline).map Coins.mk

end Coins

end DeviceRegistry
