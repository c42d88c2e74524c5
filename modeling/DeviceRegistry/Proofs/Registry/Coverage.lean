import Mathlib
import DeviceRegistry.Proofs.Registry.Import
import DeviceRegistry.Proofs.Registry.Occurrence
import DeviceRegistry.Proofs.Registry.Requests
import DeviceRegistry.Proofs.Registry.Sound
import DeviceRegistry.Proofs.Store
/-!
# Every bucket is covered by its device

A registry may begin with a genesis, and more can be asked of it than messages. A device
may then list hashes of buckets that are stored nowhere, or that belong to another device,
and it may list one twice. What is left of the links is one direction of them: whatever
bucket is stored, its own device is registered and lists it.

That much is enough for a deletion to reach all buckets of a device, and no assumption on
hashes is needed for it. A bucket that is written over another one with the same hash is
listed by its own device, and the other one is gone.
-/

namespace DeviceRegistry

theorem Store.put_comm {α β : Type} [Binary.Codec α] [Binary.Codec β] (store : Store)
    {key other : StoreKey} (value : α) (otherValue : β) (different : key ≠ other) :
    (store.put key value).put other otherValue = (store.put other otherValue).put key value :=
  Store.insert_comm _ _ (StoreKey.bytes_injective.ne different)

namespace Registry

/-- The stores of a registry that begins empty or with a genesis, after any requests. -/
inductive Reached : Store → Prop
  | empty : Reached .empty
  | imported {genesis : Genesis}
      (succeeds : ((importGenesis genesis).on .empty).1 = .ok ()) :
      Reached ((importGenesis genesis).on .empty).2
  | asked {store : Store} (reached : Reached store) (request : Request) :
      Reached (request.after store)

/-! ## The invariant -/

theorem Consists.insertAll_devices {deviceLaw : Device → Prop} {bucketLaw : Bucket → Prop}
    {store : Store} (consists : Consists deviceLaw bucketLaw store) {devices : List Device}
    (checked : ∀ device ∈ devices,
      device.id.isEmpty = false ∧ device.owner.isEmpty = false ∧ deviceLaw device) :
    Consists deviceLaw bucketLaw (store.insertAll (devices.map Device.entry)) := by
  induction devices generalizing store with
  | nil => exact consists
  | cons first rest hypothesis =>
    rcases checked first List.mem_cons_self with ⟨named, owned, law⟩
    apply hypothesis
    · exact consists.put_device rfl named owned law
    · intro device member
      exact checked device (List.mem_cons_of_mem _ member)

/-- Devices and buckets lie under their own keys, and each bucket is listed by its device. -/
structure Covered (store : Store) : Prop where
  consists : Consists (fun _ => True) (fun stored => stored.readings ≠ []) store
  listed : ∀ {hash stored}, bucket store hash = .ok stored →
    ∃ home, device store stored.device = .ok home ∧ hash ∈ home.buckets

namespace Covered

variable {store after : Store} {address : Address}

theorem of_no_bucket
    (consists : Consists (fun _ => True) (fun stored => stored.readings ≠ []) store)
    (none : ∀ hash stored, bucket store hash ≠ .ok stored) : Covered store where
  consists
  listed stands := absurd stands (none _ _)

theorem empty : Covered .empty := by
  apply of_no_bucket .empty
  intro hash stored stands
  rw [bucket_of_get?_eq_none (Store.get?_empty _)] at stands
  contradiction

theorem put_device (covered : Covered store) {stored : Device} (idSame : stored.id = address)
    (named : address.isEmpty = false) (owned : stored.owner.isEmpty = false)
    (keeps : ∀ found, device store address = .ok found → found.buckets ⊆ stored.buckets) :
    Covered (store.put (.device address) stored) where
  consists := covered.consists.put_device idSame named owned trivial
  listed {hash found} stands := by
    rw [bucket_put_device] at stands
    rcases covered.listed stands with ⟨home, present, member⟩
    by_cases here : found.device = address
    · rw [here] at present
      refine ⟨stored, ?_, keeps home present member⟩
      simp [device_put_device store owned, here]
    · refine ⟨home, ?_, member⟩
      simp [device_put_device store owned, here, present]

/-- A device may change in everything but the hashes that it lists already. -/
theorem replace_device (covered : Covered store) {found stored : Device}
    (present : device store address = .ok found) (keepsId : stored.id = found.id)
    (owned : stored.owner.isEmpty = false) (keeps : found.buckets ⊆ stored.buckets) :
    Covered (store.put (.device address) (placed address stored)) := by
  rcases covered.consists.of_device present with ⟨-, idSame, named, -⟩
  rw [placed_of_id _ (keepsId.trans idSame)]
  apply covered.put_device (keepsId.trans idSame) named owned
  intro known presentToo
  cases presentToo.symm.trans present
  exact keeps

theorem put_bucket (covered : Covered store) (stored : Bucket)
    (checked : checkBucket stored = .ok ()) (filled : stored.readings ≠ []) {home : Device}
    (present : device store stored.device = .ok home) (member : stored.hash ∈ home.buckets) :
    Covered (store.put (.bucket stored.hash) stored) where
  consists := covered.consists.put_bucket stored checked filled
  listed {hash found} stands := by
    rw [bucket_put_bucket] at stands
    simp only [device_put_bucket]
    split at stands
    · rename_i here
      subst here
      cases stands
      exact ⟨home, present, member⟩
    · exact covered.listed stands

/-- A bucket and its listing may be written in either order. -/
theorem open_bucket (covered : Covered store) (stored : Bucket)
    (checked : checkBucket stored = .ok ()) (filled : stored.readings ≠ []) {found : Device}
    (present : device store stored.device = .ok found) :
    Covered ((store.put (.bucket stored.hash) stored).put (.device stored.device)
      (placed stored.device { found with buckets := found.buckets ++ [stored.hash] })) := by
  have owned := owner_of_device present
  have listing : Covered (store.put (.device stored.device)
      (placed stored.device { found with buckets := found.buckets ++ [stored.hash] })) := by
    apply covered.replace_device present
    · rfl
    · exact owned
    · exact List.subset_append_left _ _
  -- Between the two writes the bucket is not listed, so the other order is followed here.
  rw [Store.put_comm _ _ _ (by simp)]
  apply listing.put_bucket stored checked filled (device_put_device_self store (by exact owned))
  simp

/-- A bucket that is stored may get more readings. -/
theorem extend_bucket (covered : Covered store) {hash : BucketHash} {known : Bucket}
    (stands : bucket store hash = .ok known) (checked : checkBucket known = .ok ())
    (reading : Reading) : Covered (store.put (.bucket known.hash) (known.push reading)) := by
  rcases covered.listed stands with ⟨home, present, member⟩
  rcases covered.consists.of_bucket stands with ⟨-, hashSame, -⟩
  subst hashSame
  apply covered.put_bucket (known.push reading) checked _ present member
  simp [Bucket.push]

/-- A bucket that stays is not listed by the device that goes, so it belongs to another one. -/
theorem elsewhere_of_dropAll (covered : Covered store) {found : Device} {hash : BucketHash}
    {stored : Bucket} (present : device store address = .ok found)
    (stands : bucket (store.dropAll (keysOf address found)) hash = .ok stored) :
    bucket store hash = .ok stored ∧ stored.device ≠ address := by
  rw [bucket_dropAll] at stands
  split at stands
  · contradiction
  · rename_i kept
    refine ⟨stands, ?_⟩
    rintro rfl
    rcases covered.listed stands with ⟨home, there, member⟩
    cases there.symm.trans present
    exact kept (by simpa [keysOf] using member)

/-- A device may go if the buckets that it lists go with it. -/
theorem drop_device (covered : Covered store) {found : Device}
    (present : device store address = .ok found) :
    Covered (store.dropAll (keysOf address found)) where
  consists := by
    apply covered.consists.of_fewer
    intro bytes value stands
    rw [Store.get?_dropAll] at stands
    split at stands
    · contradiction
    · exact stands
  listed {hash stored} stands := by
    rcases covered.elsewhere_of_dropAll present stands with ⟨stood, elsewhere⟩
    rcases covered.listed stood with ⟨home, there, member⟩
    refine ⟨home, ?_, member⟩
    simp [device_dropAll, keysOf, elsewhere, there]

/-! ## Requests keep it -/

theorem arrival (covered : Covered store) {channelId : String} {instant : Int64}
    {reading : Reading} (arrival : Arrival store address channelId instant reading after) :
    Covered after := by
  cases arrival with
  | nothing => exact covered
  | extended present listed stored fresh checked => exact covered.extend_bucket stored checked _
  | opened present listed unknown named channelNamed =>
    refine covered.open_bucket ((Bucket.new _ _ _).push _)
      (checkBucket_eq_ok.mpr ⟨named, channelNamed⟩) ?_ present
    simp [Bucket.push]

theorem appendCounted (covered : Covered store) (address : Address) (tally : Tally)
    (new : NewReading) : Covered ((appendCounted address tally new).on store).2 := by
  rw [after_appendCounted]
  exact covered.arrival (arrival_of_append _ _ _ _ _)

theorem step (covered : Covered store) {mark : Mark} (step : Step store mark after) :
    Covered after := by
  cases step with
  | register name absent named owned =>
    apply covered.put_device
    · rfl
    · exact named
    · exact owned
    · intro found present
      rw [absent] at present
      contradiction
  | handOver present named owned =>
    apply covered.replace_device present
    · rfl
    · exact owned
    · exact List.Subset.refl _
  | editChannels update present named =>
    apply covered.replace_device present
    · rfl
    · have owned := owner_of_device present
      exact owned
    · exact List.Subset.refl _
  | extend present listed stored fresh checked =>
    exact covered.arrival (.extended present listed stored fresh checked)
  | openBucket present listed unknown named channelNamed =>
    exact covered.arrival (.opened present listed unknown named channelNamed)

theorem steps (covered : Covered store) {permitted : Mark → Prop}
    (steps : Steps permitted store after) : Covered after :=
  steps.preserves Covered (fun _ step covered => Covered.step covered step) covered

theorem handle (covered : Covered store) (message : Message) :
    Covered ((handle message).on store).2 :=
  covered.steps (steps_of_handle store message)

theorem effect (covered : Covered store) (effect : Effect store after) : Covered after := by
  cases effect with
  | orderly effect =>
    cases effect with
    | steps steps => exact covered.steps steps
    | deletion present => exact covered.drop_device present
  | revision present sameId sameOwner keeps =>
    have owned := owner_of_device present
    rw [← sameOwner] at owned
    exact covered.replace_device present sameId owned keeps
  | arrival arrival => exact covered.arrival arrival

theorem request (covered : Covered store) (request : Request) : Covered (request.after store) :=
  covered.effect (request.effect store)

/-! ## An import begins with it -/

theorem insertAll_devices {devices : List Device}
    (checked : ∀ device ∈ devices, device.id.isEmpty = false ∧ device.owner.isEmpty = false) :
    Covered (Store.empty.insertAll (devices.map Device.entry)) := by
  apply of_no_bucket
  · apply Consists.empty.insertAll_devices
    intro device member
    rcases checked device member with ⟨named, owned⟩
    exact ⟨named, owned, trivial⟩
  · intro hash stored stands
    rw [bucket_insertAll_devices, bucket_of_get?_eq_none (Store.get?_empty _)] at stands
    contradiction

/-- A bucket of an import is covered once it is written, and no device goes. -/
theorem importBucket (covered : Covered store) {stored : Bucket}
    (checked : checkBucket stored = .ok ()) (filled : stored.readings ≠ []) {home : Device}
    (present : device store stored.device = .ok home) :
    ((importBucket stored).on store).1 = .ok () ∧ Covered ((importBucket stored).on store).2 ∧
      ∀ {address found}, device store address = .ok found →
        ∃ next, device ((importBucket stored).on store).2 address = .ok next := by
  by_cases listed : stored.hash ∈ home.buckets
  · rw [on_importBucket_of_listed checked present listed]
    refine ⟨rfl, covered.put_bucket stored checked filled present listed, ?_⟩
    intro address found there
    exact ⟨found, by rw [device_put_bucket, there]⟩
  · rw [on_importBucket_of_unlisted checked present listed]
    refine ⟨rfl, covered.open_bucket stored checked filled present, ?_⟩
    intro address found there
    have owned := owner_of_device present
    rw [device_put_device _ (by exact owned), device_put_bucket]
    split
    · exact ⟨_, rfl⟩
    · exact ⟨found, there⟩

theorem importGenesis {genesis : Genesis} (checked : genesis.check = .ok ()) :
    ((importGenesis genesis).on .empty).1 = .ok () ∧
      Covered ((importGenesis genesis).on .empty).2 := by
  rcases Genesis.check_eq_ok.mp checked with ⟨devices, buckets⟩
  rw [on_importGenesis checked]
  have registered : ∀ address, (∃ device ∈ genesis.devices, device.id = address) →
      ∃ home, device (Store.empty.insertAll (genesis.devices.map Device.entry)) address =
        .ok home := by
    intro address listed
    exact exists_device_insertAll (fun device member => (devices device member).2) listed
  -- The loop writes to devices too, but each stays registered until its buckets come up.
  have loop := Operation.on_forM Registry.importBucket
    (fun before stored => ((Registry.importBucket stored).on before).2)
    (fun before => Covered before ∧ ∀ address,
      (∃ device ∈ genesis.devices, device.id = address) → ∃ home, device before address = .ok home)
    (fun stored member before ⟨coveredBefore, registeredBefore⟩ => by
      rcases buckets stored member with ⟨fine, listed, filled⟩
      rcases registeredBefore stored.device listed with ⟨home, present⟩
      rcases coveredBefore.importBucket fine filled present with ⟨done, coveredNext, stay⟩
      refine ⟨Prod.ext done rfl, coveredNext, ?_⟩
      intro address listedToo
      rcases registeredBefore address listedToo with ⟨found, there⟩
      exact stay there)
    ⟨insertAll_devices devices, registered⟩
  rw [loop.1]
  exact ⟨rfl, loop.2.1⟩

end Covered

theorem Reached.covered {store : Store} (reached : Reached store) : Covered store := by
  induction reached with
  | empty => exact .empty
  | imported succeeds => exact (Covered.importGenesis (check_of_importGenesis succeeds)).2
  | asked reached request hypothesis => exact hypothesis.request request

theorem Reached.foldl {store : Store} (reached : Reached store) (requests : List Request) :
    Reached (requests.foldl Request.after store) := by
  induction requests generalizing store with
  | nil => exact reached
  | cons first rest hypothesis => exact hypothesis (reached.asked first)

/-- Two devices, the second of which lists the only bucket of the first one, twice. -/
def entangled : Genesis where
  devices :=
    [⟨⟨[1]⟩, ⟨[9]⟩, "meter", [⟨"a", "temperature"⟩], []⟩,
      ⟨⟨[2]⟩, ⟨[9]⟩, "spy", [],
        [.ofDay ⟨[1]⟩ ⟨"a", "temperature"⟩ 86400, .ofDay ⟨[1]⟩ ⟨"a", "temperature"⟩ 86400]⟩]
  buckets := [⟨⟨[1]⟩, ⟨"a", "temperature"⟩, 86400, [⟨7, ⟨0⟩, ""⟩]⟩]

/-- A reading before the epoch arrives at a channel, which is renamed and doubled afterwards. -/
def entangledStore : Store :=
  [.call (.append ⟨[1]⟩ "a" (-1) ⟨7, ⟨0⟩, ""⟩) rfl,
    .call (.assignChannel ⟨[1]⟩ ⟨"a", "humidity"⟩) rfl,
    .call (.addChannel ⟨[1]⟩ ⟨"a", "pressure"⟩) rfl].foldl Request.after
      ((importGenesis entangled).on .empty).2

theorem reached_entangledStore : Reached entangledStore := by
  apply Reached.foldl
  apply Reached.imported
  exact (Covered.importGenesis (by decide)).1

end Registry

end DeviceRegistry
