import Mathlib
import DeviceRegistry.Account
import DeviceRegistry.Coin
import DeviceRegistry.Event
import DeviceRegistry.Message
import DeviceRegistry.Node.GenesisFile
import DeviceRegistry.Proofs.Json.Tagged
import DeviceRegistry.Proofs.Node.Files
/-!
# Documents without measured values

Only the value of a reading can change between its document and itself. Everything that
holds no reading is read from its document as it was, whatever its texts contain, however
long its lists are, and in either layout.
-/

namespace DeviceRegistry

open Json (Form Lossless Survives WellWritten canWait_ofNat lossless_ofFields naturalBelow
  naturalBelow_ofNat regular_ofFields survives_among survives_beside survives_ofFields toJson)
open Text

/-- A value is read from its document, in either layout. -/
structure ReadBack {α : Type} [Form α] (value : α) : Prop where
  compact : Json.read (Utf8.encode (toJson value).compact) = .ok value
  indented : Json.read (Utf8.encode (toJson value).indented) = .ok value

theorem readBack_of_survives {α : Type} [Form α] [WellWritten α] {value : α}
    (survives : Survives value) : ReadBack value where
  compact := (Json.read_compact value).trans survives
  indented := (Json.read_indented value).trans survives

theorem readBack {α : Type} [Form α] [Lossless α] (value : α) : ReadBack value :=
  readBack_of_survives (Lossless.survives value)

/-! ## Numbers, accounts and coins -/

instance : Lossless UInt64 where
  regular number := Numeral.regular_ofNat number.toNat
  survives number := by
    change (naturalBelow UInt64.size (.number (.ofNat number.toNat))).map UInt64.ofNat = _
    rw [naturalBelow_ofNat number.toNat_lt]
    exact congrArg Except.ok UInt64.ofNat_toNat

instance : Lossless (BitVec 128) where
  regular number := Numeral.regular_ofNat number.toNat
  survives number := by
    change (naturalBelow (UInt64.size * UInt64.size) (.number (.ofNat number.toNat))).map
      (BitVec.ofNat 128) = _
    have below : number.toNat < UInt64.size * UInt64.size := number.isLt
    rw [naturalBelow_ofNat below]
    exact congrArg Except.ok (BitVec.ofNat_toNat 128 number)

instance : WellWritten Nat where
  regular := Numeral.regular_ofNat

theorem survives_nat {count : Nat} (fits : count < UInt64.size) : Survives count :=
  naturalBelow_ofNat fits

instance : Lossless Account :=
  lossless_ofFields (by decide) ⟨inferInstance, inferInstance, inferInstance, trivial⟩

instance : Lossless Coin :=
  lossless_ofFields (by decide) ⟨inferInstance, inferInstance, trivial⟩

instance : Lossless Coins where
  regular coins := WellWritten.regular coins.coins
  survives coins := congrArg (Except.map Coins.mk) (Lossless.survives coins.coins)

/-! ## Messages -/

instance : Lossless SetOwner :=
  lossless_ofFields (by decide)
    ⟨inferInstance, inferInstance, inferInstance, inferInstance, trivial⟩

instance : Lossless ChannelUpdate :=
  lossless_ofFields (by decide) ⟨inferInstance, inferInstance, inferInstance, trivial⟩

instance : Lossless UpdateChannels :=
  lossless_ofFields (by decide) ⟨inferInstance, inferInstance, inferInstance, trivial⟩

instance : WellWritten NewReading where
  regular := regular_ofFields ⟨WellWritten.regular, WellWritten.regular, WellWritten.regular,
    WellWritten.regular, trivial⟩

instance : WellWritten AddReadings where
  regular := regular_ofFields ⟨WellWritten.regular, WellWritten.regular, trivial⟩

instance : WellWritten Message where
  regular message := by
    cases message with
    | setOwner message => exact ⟨trivial, WellWritten.regular message, trivial⟩
    | updateChannels message => exact ⟨trivial, WellWritten.regular message, trivial⟩
    | addReadings message => exact ⟨trivial, WellWritten.regular message, trivial⟩

theorem Message.survives_setOwner (message : SetOwner) : Survives (setOwner message) :=
  survives_beside (by decide) rfl (Lossless.survives message)

theorem Message.survives_updateChannels (message : UpdateChannels) :
    Survives (updateChannels message) :=
  survives_beside (by decide) rfl (Lossless.survives message)

/-! ## Events -/

namespace Event

/-- The counts of an event fit in 64 bits. -/
def Fits : Event → Prop
  | .deviceCreated _ _ | .ownerChanged _ _ _ => True
  | .channelsUpdated _ first second third | .readingsAdded _ first second third =>
    first < UInt64.size ∧ second < UInt64.size ∧ third < UInt64.size

instance : WellWritten Event where
  regular event := by
    refine ⟨trivial, ?_⟩
    cases event with
    | deviceCreated device owner =>
      exact createdFields.regular_toMembers
        ⟨WellWritten.regular, WellWritten.regular, trivial⟩ (device, owner, ())
    | ownerChanged device previousOwner newOwner =>
      exact ownerFields.regular_toMembers
        ⟨WellWritten.regular, WellWritten.regular, WellWritten.regular, trivial⟩
        (device, previousOwner, newOwner, ())
    | channelsUpdated device assigned removed ignored =>
      exact channelFields.regular_toMembers
        ⟨WellWritten.regular, WellWritten.regular, WellWritten.regular, WellWritten.regular,
          trivial⟩ (device, assigned, removed, ignored, ())
    | readingsAdded device accepted duplicates skipped =>
      exact readingFields.regular_toMembers
        ⟨WellWritten.regular, WellWritten.regular, WellWritten.regular, WellWritten.regular,
          trivial⟩ (device, accepted, duplicates, skipped, ())

theorem survives_of_fits {event : Event} (fits : event.Fits) : Survives event := by
  change variants.ofOutlineAmong "type"
    (Json.object (("type", .text event.tag) :: event.members)).outline = .ok event
  cases event with
  | deviceCreated device owner =>
    have distinct : ("type" :: createdFields.names).Nodup := by decide
    have known : variants "data_node_created" = some fun outline =>
        (createdFields.ofOutline outline).map fun fields => deviceCreated fields.1 fields.2.1 := by
      simp [variants]
    exact survives_among distinct known (device, owner, ())
      ⟨Lossless.survives device, Lossless.survives owner, trivial⟩ ⟨rfl, rfl, trivial⟩
  | ownerChanged device previousOwner newOwner =>
    have distinct : ("type" :: ownerFields.names).Nodup := by decide
    have known : variants "owner_changed" = some fun outline =>
        (ownerFields.ofOutline outline).map
          fun fields => ownerChanged fields.1 fields.2.1 fields.2.2.1 := by
      simp [variants]
    exact survives_among distinct known (device, previousOwner, newOwner, ())
      ⟨Lossless.survives device, Lossless.survives previousOwner, Lossless.survives newOwner,
        trivial⟩ ⟨rfl, rfl, rfl, trivial⟩
  | channelsUpdated device assigned removed ignored =>
    rcases fits with ⟨first, second, third⟩
    have distinct : ("type" :: channelFields.names).Nodup := by decide
    have known : variants "channels_updated" = some fun outline =>
        (channelFields.ofOutline outline).map
          fun fields => channelsUpdated fields.1 fields.2.1 fields.2.2.1 fields.2.2.2.1 := by
      simp [variants]
    exact survives_among distinct known (device, assigned, removed, ignored, ())
      ⟨Lossless.survives device, survives_nat first, survives_nat second, survives_nat third,
        trivial⟩ ⟨rfl, canWait_ofNat first, canWait_ofNat second, canWait_ofNat third, trivial⟩
  | readingsAdded device accepted duplicates skipped =>
    rcases fits with ⟨first, second, third⟩
    have distinct : ("type" :: readingFields.names).Nodup := by decide
    have known : variants "records_added" = some fun outline =>
        (readingFields.ofOutline outline).map
          fun fields => readingsAdded fields.1 fields.2.1 fields.2.2.1 fields.2.2.2.1 := by
      simp [variants]
    exact survives_among distinct known (device, accepted, duplicates, skipped, ())
      ⟨Lossless.survives device, survives_nat first, survives_nat second, survives_nat third,
        trivial⟩ ⟨rfl, canWait_ofNat first, canWait_ofNat second, canWait_ofNat third, trivial⟩

end Event

/-! ## Genesis files -/

theorem Genesis.survives_of_no_buckets (devices : List Device) :
    Survives (⟨devices, []⟩ : Genesis) := by
  apply survives_ofFields (by decide)
  exact ⟨Lossless.survives devices, Json.survives_list (by simp), trivial⟩

namespace Node.GenesisFile

theorem decode_of_survives {genesis : Genesis} (survives : Survives genesis) :
    decode (encode genesis) = (genesis.check.mapError .invalid).map fun _ => genesis := by
  have read := (readBack_of_survives survives).indented
  simp only [decode, encode, read, Except.mapError, bind, Except.bind]
  rcases genesis.check with fault | _ <;> rfl

/-- What was read from a file is checked, and nothing else can go wrong with it. -/
theorem decode_eq_ok {genesis : Genesis} (survives : Survives genesis) :
    decode (encode genesis) = .ok genesis ↔ genesis.check = .ok () := by
  rw [decode_of_survives survives]
  rcases genesis.check with fault | _ <;> simp [Except.map, Except.mapError]

section Files

variable {system after : FileSystem} {path : String} {genesis : Genesis}

theorem save_eq_ok : (save FileSystem.access path genesis).run system = (.ok (), after) ↔
    system.write path (encode genesis) = .ok after := by
  rcases written : system.write path (encode genesis) with error | next
  · have run : (save FileSystem.access path genesis).run system =
        (.error (.file path error), system) := by
      simp [save, FileSystem.access, written]
      rfl
    rw [run]
    constructor <;> intro same <;> cases same
  · have run : (save FileSystem.access path genesis).run system = (.ok (), next) := by
      simp [save, FileSystem.access, written]
      rfl
    rw [run]
    constructor <;> intro same <;> cases same <;> rfl

theorem run_load (system : FileSystem) (path : String) :
    (load FileSystem.access path).run system =
      ((system.read path).mapError (.file path) >>= decode, system) := by
  rcases read : system.read path with fault | content
  · simp [load, FileSystem.access, read]
    rfl
  · simp [load, FileSystem.access, read]
    rfl

theorem load_eq_ok : (load FileSystem.access path).run system = (.ok genesis, after) ↔
    after = system ∧ ∃ content, system.read path = .ok content ∧ decode content = .ok genesis := by
  rw [run_load, Prod.ext_iff, bind_eq_ok, and_comm, eq_comm (a := after)]
  cases system.read path <;> simp [Except.mapError]

/-- Nothing comes between the bytes that are saved and those that are loaded. -/
theorem load_of_save (saved : (save FileSystem.access path genesis).run system = (.ok (), after)) :
    (load FileSystem.access path).run after = (decode (encode genesis), after) := by
  rw [run_load, FileSystem.read_of_write (save_eq_ok.mp saved)]
  simp only [Except.mapError, bind, Except.bind]

end Files

end Node.GenesisFile

/-! ## All of them -/

/-- Whatever holds no reading is read from its document, and from a genesis file if it is valid. -/
theorem documents_read_back :
    (∀ address : Address, ReadBack address) ∧
    (∀ hash : BucketHash, ReadBack hash) ∧
    (∀ channel : Channel, ReadBack channel) ∧
    (∀ device : Device, ReadBack device) ∧
    (∀ account : Account, ReadBack account) ∧
    (∀ coin : Coin, ReadBack coin) ∧
    (∀ coins : Coins, ReadBack coins) ∧
    (∀ message : SetOwner, ReadBack message) ∧
    (∀ update : ChannelUpdate, ReadBack update) ∧
    (∀ message : UpdateChannels, ReadBack message) ∧
    (∀ message : SetOwner, ReadBack (Message.setOwner message)) ∧
    (∀ message : UpdateChannels, ReadBack (Message.updateChannels message)) ∧
    (∀ event : Event, event.Fits → ReadBack event) ∧
    (∀ devices : List Device, ReadBack (⟨devices, []⟩ : Genesis)) ∧
    (∀ devices : List Device,
      Node.GenesisFile.decode (Node.GenesisFile.encode ⟨devices, []⟩) = .ok ⟨devices, []⟩ ↔
        (⟨devices, []⟩ : Genesis).check = .ok ()) ∧
    (∀ (system after : Node.FileSystem) (path : String) (devices : List Device),
      (Node.GenesisFile.save Node.FileSystem.access path ⟨devices, []⟩).run system =
        (.ok (), after) →
      (((Node.GenesisFile.load Node.FileSystem.access path).run after).1 = .ok ⟨devices, []⟩ ↔
        (⟨devices, []⟩ : Genesis).check = .ok ())) := by
  refine ⟨readBack, readBack, readBack, readBack, readBack, readBack, readBack, readBack,
    readBack, readBack, ?_, ?_, ?_, ?_, ?_, ?_⟩
  · intro message
    exact readBack_of_survives (Message.survives_setOwner message)
  · intro message
    exact readBack_of_survives (Message.survives_updateChannels message)
  · intro event fits
    exact readBack_of_survives (Event.survives_of_fits fits)
  · intro devices
    exact readBack_of_survives (Genesis.survives_of_no_buckets devices)
  · intro devices
    exact Node.GenesisFile.decode_eq_ok (Genesis.survives_of_no_buckets devices)
  · intro system after path devices saved
    rw [Node.GenesisFile.load_of_save saved]
    exact Node.GenesisFile.decode_eq_ok (Genesis.survives_of_no_buckets devices)

/-- A device whose texts hold marks of the grammar, control characters and one of four bytes. -/
def markedDevice : Device :=
  ⟨⟨[1]⟩, ⟨[2]⟩, "\"\\,\n\x01", [⟨"", "😀:[]"⟩], []⟩

/-- Nothing but the file with this device. -/
def markedFiles : Node.FileSystem :=
  ⟨[(Node.Place.working.child "genesis.json".toList,
    Node.GenesisFile.encode ⟨[markedDevice], []⟩)], []⟩

theorem documents_read_back_markedDevice :
    (Event.channelsUpdated ⟨[1]⟩ 2 1 0).Fits ∧
    ReadBack (Event.channelsUpdated ⟨[1]⟩ 2 1 0) ∧
    (Node.GenesisFile.save Node.FileSystem.access "genesis.json" ⟨[markedDevice], []⟩).run .empty =
      (.ok (), markedFiles) ∧
    ((Node.GenesisFile.load Node.FileSystem.access "genesis.json").run markedFiles).1 =
      .ok ⟨[markedDevice], []⟩ := by
  rcases documents_read_back with ⟨-, -, -, -, -, -, -, -, -, -, -, -, event, -, -, file⟩
  have fits : (Event.channelsUpdated ⟨[1]⟩ 2 1 0).Fits := by
    exact ⟨by decide, by decide, by decide⟩
  have saved : (Node.GenesisFile.save Node.FileSystem.access "genesis.json"
      ⟨[markedDevice], []⟩).run .empty = (.ok (), markedFiles) := by
    apply Node.GenesisFile.save_eq_ok.mpr
    rfl
  exact ⟨fits, event _ fits, saved, (file _ _ _ _ saved).mpr (by decide)⟩

end DeviceRegistry
