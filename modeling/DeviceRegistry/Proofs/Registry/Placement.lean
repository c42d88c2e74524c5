import Mathlib
import DeviceRegistry.Proofs.Registry.Upkeep
import DeviceRegistry.Proofs.Store
/-!
# One edit of a list of channels

A device may hold any list of channels, and several of them may have one id. An edit is about
the first of those. To remove it frees its place, which the last channel takes, even if that
one has the same id; to assign it gives it another quantity where it stands. Where there is no
channel with the id, a removal stores the very bytes that were stored, and an assignment adds
the channel at the end.

All this is said of the store: an edit reads the entry of its device and writes it anew, and
every part of the entry that is not edited has to survive that. It does on every entry that
the registry has written itself.
-/

namespace DeviceRegistry

theorem Store.put_eq_self {α : Type} [Binary.Codec α] {store : Store} {key : StoreKey} {value : α}
    (stands : store.get? key.bytes = some (Binary.Codec.encode value)) :
    store.put key value = store :=
  Store.insert_eq_self stands

namespace Registry

open Operation

variable {store : Store} {address : Address} {found : Device}

/-- A device has been stored over another one, and no other entry has changed. -/
structure Exchanged (store after : Store) (address : Address) (next : Device) : Prop where
  device : device after address = .ok next
  others : ∀ bytes ≠ (StoreKey.device address).bytes, after.get? bytes = store.get? bytes

theorem exchanged_put (store : Store) {next : Device} (storable : Storable address next) :
    Exchanged store (store.put (.device address) next) address next where
  device := device_put_device_self store storable.owned
  others bytes elsewhere := by
    rw [Store.put, Store.get?_insert, if_neg elsewhere]

theorem Storable.edited (storable : Storable address found) (channels : List Channel) :
    Storable address { found with channels } :=
  ⟨storable.addressed, storable.named, storable.owned⟩

/-- A storable device is written as it has been edited. -/
theorem on_editChannels (edit : List Channel → List Channel)
    (present : device store address = .ok found) (storable : Storable address found) :
    (editDevice address fun found => { found with channels := edit found.channels }).on store =
      (.ok (), store.put (.device address) { found with channels := edit found.channels }) := by
  have edited := storable.edited (edit found.channels)
  rw [on_editDevice _ present storable.addressed edited.owned, edited.placed]

theorem on_removeChannel (present : device store address = .ok found)
    (storable : Storable address found) (id : String) :
    (removeChannel address id).on store =
      (.ok (), store.put (.device address)
        { found with channels := Channel.remove found.channels id }) :=
  on_editChannels (Channel.remove · id) present storable

theorem on_assignChannel (present : device store address = .ok found)
    (storable : Storable address found) (channel : Channel) :
    (assignChannel address channel).on store =
      (.ok (), store.put (.device address)
        { found with channels := Channel.assign channel found.channels }) :=
  on_editChannels (Channel.assign channel) present storable

/-! ## Main result -/

/-- What single edits make of the channels of a device. -/
structure EditedInPlace (store : Store) (address : Address) (found : Device) : Prop where
  removed : ∀ id index channel, Channel.StandsFirst found.channels id index channel →
    ∃ left after, (removeChannel address id).on store = (.ok (), after) ∧
      Exchanged store after address { found with channels := left } ∧
      Channel.TakenOut found.channels index channel left
  missing : ∀ id, (∀ channel ∈ found.channels, channel.id ≠ id) →
    (removeChannel address id).on store = (.ok (), store)
  changed : ∀ channel index known,
    Channel.StandsFirst found.channels channel.id index known →
    ∃ after, (assignChannel address channel).on store = (.ok (), after) ∧
      Exchanged store after address { found with
        channels := found.channels.set index { known with quantity := channel.quantity } }
  added : ∀ channel, (∀ other ∈ found.channels, other.id ≠ channel.id) →
    ∃ after, (assignChannel address channel).on store = (.ok (), after) ∧
      Exchanged store after address { found with channels := found.channels ++ [channel] }
  /-- A channel that is assigned twice is assigned once. -/
  settled : ∀ channel, ∃ after, (assignChannel address channel).on store = (.ok (), after) ∧
    (assignChannel address channel).on after = (.ok (), after)

theorem channels_edited_in_place (maintained : Maintained address store)
    (present : device store address = .ok found) : EditedInPlace store address found := by
  rcases maintained.inForm.of_device present with ⟨stands, storable⟩
  constructor
  · intro id index channel first
    refine ⟨_, _, on_removeChannel present storable id, ?_, first.takenOut⟩
    exact exchanged_put store (storable.edited _)
  · intro id missing
    have kept : Channel.remove found.channels id = found.channels := by
      apply Channel.remove_of_find?_eq_none
      simpa [Channel.find?] using missing
    rw [on_removeChannel present storable, kept, Store.put_eq_self stands]
  · intro channel index known first
    refine ⟨_, on_assignChannel present storable channel, ?_⟩
    rw [first.assign_eq]
    exact exchanged_put store (storable.edited _)
  · intro channel missing
    refine ⟨_, on_assignChannel present storable channel, ?_⟩
    rw [Channel.assign_of_missing missing]
    exact exchanged_put store (storable.edited _)
  · intro channel
    -- The second assignment finds the device as the first one has left it.
    have storableNext := storable.edited (Channel.assign channel found.channels)
    have presentNext := (exchanged_put store storableNext).device
    refine ⟨_, on_assignChannel present storable channel, ?_⟩
    rw [on_assignChannel presentNext storableNext, Channel.assign_assign,
      Store.put_eq_self (Store.get?_put_self _ _ _)]

/-- Two channels of the device have one id, and the second of them is the last one. -/
def doubled : Device :=
  ⟨⟨[1]⟩, ⟨[9]⟩, "meter",
    [⟨"b", "humidity"⟩, ⟨"a", "temperature"⟩, ⟨"c", "force"⟩, ⟨"a", "pressure"⟩], []⟩

/-- The device is stored over something unreadable. -/
def repaired : Store :=
  ((saveDevice ⟨[1]⟩ doubled).on
    (Store.empty.insert (StoreKey.device ⟨[1]⟩).bytes [7])).2

/-- The channel that moves up has the id of the one that goes. -/
theorem channels_edited_in_place_repaired :
    Maintained ⟨[1]⟩ repaired ∧ device repaired ⟨[1]⟩ = .ok doubled ∧
      (removeChannel ⟨[1]⟩ "d").on repaired = (.ok (), repaired) ∧
      ∃ left after, (removeChannel ⟨[1]⟩ "a").on repaired = (.ok (), after) ∧
        device after ⟨[1]⟩ = .ok { doubled with channels := left } ∧
        left.length = 3 ∧ left[1]? = some ⟨"a", "pressure"⟩ := by
  have maintained : Maintained ⟨[1]⟩ repaired :=
    .written (.call (.saveDevice ⟨[1]⟩ doubled)) (by decide +kernel)
  have present : device repaired ⟨[1]⟩ = .ok doubled := device_put_device_self _ rfl
  have edited := channels_edited_in_place maintained present
  have first : Channel.StandsFirst doubled.channels "a" 1 ⟨"a", "temperature"⟩ := by
    refine ⟨rfl, rfl, ?_⟩
    intro earlier below other there
    obtain rfl : earlier = 0 := Nat.lt_one_iff.mp below
    cases there
    decide
  rcases edited.removed "a" 1 _ first with ⟨left, after, succeeds, exchanged, taken⟩
  have three : left.length = 3 := Nat.succ.inj taken.length
  refine ⟨maintained, present, edited.missing "d" (by decide), left, after, succeeds,
    exchanged.device, three, ?_⟩
  exact taken.freed (by omega)

end Registry

end DeviceRegistry
