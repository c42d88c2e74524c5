import DeviceRegistry.Binary.Codec
import DeviceRegistry.Json.Form
/-!
# Channels

A device measures one quantity on each of its channels. The list of channels keeps the
order in which they were added until one is removed: the last channel then takes the
place of the removed one.

A list may hold several channels with one id. The first of them is the one that is
found, changed and removed.
-/

namespace DeviceRegistry

open Binary (Codec)
open Json (Form)

/-- A named stream of readings of a device. -/
structure Channel where
  id : String
  /-- What is measured. -/
  quantity : String
deriving DecidableEq, Repr, Inhabited

namespace Channel

instance : Layout Channel (String × String × Unit) where
  toFields channel := (channel.id, channel.quantity, ())
  ofFields | (id, quantity, ()) => ⟨id, quantity⟩

instance : Codec Channel := .ofLayout

instance : Form Channel :=
  .ofFields (.optional "id" "" <| .required "variable" .nil)

/-- The first channel with an id. -/
def find? (channels : List Channel) (id : String) : Option Channel :=
  channels.find? fun channel => channel.id = id

/-- Gives the first channel with the same id a new quantity, or adds the channel. -/
def assign (channel : Channel) : List Channel → List Channel
  | [] => [channel]
  | first :: rest =>
    if first.id = channel.id then { first with quantity := channel.quantity } :: rest
    else first :: assign channel rest

/-- Takes an item out of a list and puts the last one in its place. -/
def swapRemove (channels : List Channel) (index : Nat) : List Channel :=
  match channels.getLast? with
  | none => []
  | some last => (channels.set index last).dropLast

/-- Removes the first channel with an id, if there is one. -/
def remove (channels : List Channel) (id : String) : List Channel :=
  match channels.findIdx? fun channel => channel.id = id with
  | none => channels
  | some index => swapRemove channels index

end Channel

end DeviceRegistry
