import Mathlib
import DeviceRegistry.Proofs.Registry.Coverage
/-!
# An import undoes an export

An export goes through the entries of a store in the order of their keys and reads each
of them. The devices and buckets that it collects are therefore the entries again, sorted
into two lists.

To import them means to write all entries to an empty store. No bucket has to be listed
on the way, since its device lists it already, and so the outcome is the store itself.
-/

namespace DeviceRegistry

namespace Registry

/-- A genesis sorts entries into devices and buckets, and keeps their order. -/
structure Sorts (entries : List (Bytes × Bytes)) (genesis : Genesis) : Prop where
  devices : (genesis.devices.map Device.entry).Sublist entries
  buckets : (genesis.buckets.map Bucket.entry).Sublist entries
  complete : ∀ entry ∈ entries,
    entry ∈ genesis.devices.map Device.entry ∨ entry ∈ genesis.buckets.map Bucket.entry

namespace Sorts

variable {entries : List (Bytes × Bytes)} {genesis : Genesis}

theorem nil : Sorts [] .empty where
  devices := List.Sublist.slnil
  buckets := List.Sublist.slnil
  complete _ member := absurd member List.not_mem_nil

theorem cons_device (sorts : Sorts entries genesis) (device : Device) :
    Sorts (device.entry :: entries) { genesis with devices := device :: genesis.devices } where
  devices := sorts.devices.cons_cons device.entry
  buckets := sorts.buckets.cons device.entry
  complete entry member := by
    rcases List.mem_cons.mp member with rfl | member
    · simp
    · rcases sorts.complete entry member with isDevice | isBucket
      · exact Or.inl (List.mem_cons_of_mem _ isDevice)
      · exact Or.inr isBucket

theorem cons_bucket (sorts : Sorts entries genesis) (bucket : Bucket) :
    Sorts (bucket.entry :: entries) { genesis with buckets := bucket :: genesis.buckets } where
  devices := sorts.devices.cons bucket.entry
  buckets := sorts.buckets.cons_cons bucket.entry
  complete entry member := by
    rcases List.mem_cons.mp member with rfl | member
    · simp
    · rcases sorts.complete entry member with isDevice | isBucket
      · exact Or.inl isDevice
      · exact Or.inr (List.mem_cons_of_mem _ isBucket)

end Sorts

/-! ## Exports -/

variable {store : Store} {deviceLaw : Device → Prop} {bucketLaw : Bucket → Prop}

/-- Where a store consists of devices and buckets, an export reads every entry. -/
theorem exists_collect (consists : Consists deviceLaw bucketLaw store)
    {entries : List (Bytes × Bytes)}
    (present : ∀ entry ∈ entries, store.get? entry.1 = some entry.2) :
    ∃ genesis, collect store entries = .ok genesis ∧ Sorts entries genesis := by
  induction entries with
  | nil => exact ⟨.empty, rfl, .nil⟩
  | cons first rest hypothesis =>
    rcases hypothesis fun entry member => present entry (List.mem_cons_of_mem _ member) with
      ⟨others, collected, sorts⟩
    rcases first with ⟨bytes, value⟩
    have stands : store.get? bytes = some value := present (bytes, value) List.mem_cons_self
    rcases consists.known stands with ⟨key, rfl⟩
    cases key with
    | device address =>
      rcases consists.device stands with ⟨found, rfl, rfl, named, -⟩
      have read := consists.device_iff.mpr stands
      refine ⟨_, ?_, sorts.cons_device found⟩
      simp only [collect, StoreKey.ofBytes?_device named, read, collected]
      rfl
    | bucket hash =>
      rcases consists.bucket stands with ⟨found, rfl, rfl, -⟩
      have read := bucket_of_get?_eq_some stands
      refine ⟨_, ?_, sorts.cons_bucket found⟩
      simp only [collect, StoreKey.ofBytes?_bucket, read, collected]
      rfl

theorem exists_exportGenesis (consists : Consists deviceLaw bucketLaw store) :
    ∃ genesis, exportGenesis store = .ok genesis ∧ Sorts store.entries genesis := by
  rw [exportGenesis, Store.scan_nil]
  apply exists_collect consists
  rintro ⟨key, value⟩ member
  exact Store.get?_eq_some_iff.mpr member

/-! ## What an export contains -/

namespace Sorts

variable {entries : List (Bytes × Bytes)} {genesis : Genesis}

theorem mem_iff (sorts : Sorts entries genesis) (entry : Bytes × Bytes) :
    entry ∈ genesis.devices.map Device.entry ++ genesis.buckets.map Bucket.entry ↔
      entry ∈ entries := by
  rw [List.mem_append]
  constructor
  · rintro (isDevice | isBucket)
    · exact sorts.devices.subset isDevice
    · exact sorts.buckets.subset isBucket
  · exact sorts.complete entry

theorem get?_of_device (sorts : Sorts store.entries genesis) {found : Device}
    (member : found ∈ genesis.devices) :
    store.get? (StoreKey.device found.id).bytes = some (Binary.Codec.encode found) :=
  Store.get?_eq_some_iff.mpr (sorts.devices.subset (List.mem_map_of_mem member))

theorem get?_of_bucket (sorts : Sorts store.entries genesis) {stored : Bucket}
    (member : stored ∈ genesis.buckets) :
    store.get? (StoreKey.bucket stored.hash).bytes = some (Binary.Codec.encode stored) :=
  Store.get?_eq_some_iff.mpr (sorts.buckets.subset (List.mem_map_of_mem member))

theorem mem_devices (sorts : Sorts store.entries genesis) {found : Device}
    (stands : store.get? (StoreKey.device found.id).bytes = some (Binary.Codec.encode found)) :
    found ∈ genesis.devices := by
  rcases sorts.complete _ (Store.get?_eq_some_iff.mp stands) with isDevice | isBucket
  · rcases List.mem_map.mp isDevice with ⟨other, member, same⟩
    cases Binary.encode_injective (congrArg Prod.snd same)
    exact member
  · rcases List.mem_map.mp isBucket with ⟨other, -, same⟩
    have sameKey : StoreKey.bucket other.hash = .device found.id :=
      StoreKey.bytes_injective (congrArg Prod.fst same)
    contradiction

theorem mem_buckets (sorts : Sorts store.entries genesis) {stored : Bucket}
    (stands : store.get? (StoreKey.bucket stored.hash).bytes = some (Binary.Codec.encode stored)) :
    stored ∈ genesis.buckets := by
  rcases sorts.complete _ (Store.get?_eq_some_iff.mp stands) with isDevice | isBucket
  · rcases List.mem_map.mp isDevice with ⟨other, -, same⟩
    have sameKey : StoreKey.device other.id = .bucket stored.hash :=
      StoreKey.bytes_injective (congrArg Prod.fst same)
    contradiction
  · rcases List.mem_map.mp isBucket with ⟨other, member, same⟩
    cases Binary.encode_injective (congrArg Prod.snd same)
    exact member

theorem devices_ascend (sorts : Sorts store.entries genesis) :
    genesis.devices.Pairwise fun left right => left.id.bytes < right.id.bytes := by
  have ordered := List.pairwise_map.mp (store.ordered.sublist sorts.devices)
  apply ordered.imp
  intro left right below
  simpa [Device.entry, StoreKey.bytes] using below

theorem buckets_ascend (sorts : Sorts store.entries genesis) :
    genesis.buckets.Pairwise fun left right => left.hash.bytes < right.hash.bytes := by
  have ordered := List.pairwise_map.mp (store.ordered.sublist sorts.buckets)
  apply ordered.imp
  intro left right below
  simpa [Bucket.entry, StoreKey.bytes] using below

/-- What an export collects passes the check of an import. -/
theorem check (sorts : Sorts store.entries genesis) (covered : Covered store) :
    genesis.check = .ok () := by
  apply Genesis.check_eq_ok.mpr
  constructor
  · intro found member
    have present := covered.consists.device_iff.mpr (sorts.get?_of_device member)
    rcases covered.consists.of_device present with ⟨-, -, named, -⟩
    exact ⟨named, owner_of_device present⟩
  · intro stored member
    have stands := covered.consists.bucket_iff.mpr (sorts.get?_of_bucket member)
    rcases covered.consists.of_bucket stands with ⟨-, -, checked, filled⟩
    rcases covered.listed stands with ⟨home, present, -⟩
    rcases covered.consists.of_device present with ⟨entry, idSame, -⟩
    rw [← idSame] at entry
    exact ⟨checked, ⟨home, sorts.mem_devices entry, idSame⟩, filled⟩

end Sorts

/-! ## Imports of what was exported -/

/-- Buckets that their devices list already are only written. -/
theorem on_importBuckets_of_listed {buckets : List Bucket}
    (listed : ∀ stored ∈ buckets, checkBucket stored = .ok () ∧
      ∃ home, device store stored.device = .ok home ∧ stored.hash ∈ home.buckets) :
    (buckets.forM importBucket).on store =
      (.ok (), store.insertAll (buckets.map Bucket.entry)) := by
  rw [Store.insertAll, List.foldl_map]
  -- The devices are the same before each bucket, so it is listed there as it was at first.
  refine (Operation.on_forM _ _ (fun before => device before = device store) ?_ rfl).1
  intro stored member before same
  rcases listed stored member with ⟨checked, home, present, hashListed⟩
  rw [← same] at present
  refine ⟨on_importBucket_of_listed checked present hashListed, ?_⟩
  funext address
  exact (device_put_bucket before stored.hash stored address).trans (congrFun same address)

/-- The devices of an export are registered as they were, before any bucket is written. -/
theorem Sorts.device_insertAll {genesis : Genesis} (sorts : Sorts store.entries genesis)
    (consists : Consists deviceLaw bucketLaw store) {address : Address} {home : Device}
    (present : device store address = .ok home) :
    device (Store.empty.insertAll (genesis.devices.map Device.entry)) address = .ok home := by
  rcases consists.of_device present with ⟨stands, rfl, -⟩
  have member : home.entry ∈ genesis.devices.map Device.entry :=
    List.mem_map_of_mem (sorts.mem_devices stands)
  rw [← present]
  apply device_congr
  rw [Store.get?_insertAll fun entry listed => sorts.devices.subset listed, if_pos]
  exact List.mem_map_of_mem member

/-- The entries of a store, written to an empty one, make up the store. -/
theorem Sorts.on_importGenesis {genesis : Genesis} (sorts : Sorts store.entries genesis)
    (covered : Covered store) : (importGenesis genesis).on .empty = (.ok (), store) := by
  have listed : ∀ stored ∈ genesis.buckets, checkBucket stored = .ok () ∧
      ∃ home, device (Store.empty.insertAll (genesis.devices.map Device.entry)) stored.device =
        .ok home ∧ stored.hash ∈ home.buckets := by
    intro stored member
    have stands := covered.consists.bucket_iff.mpr (sorts.get?_of_bucket member)
    rcases covered.consists.of_bucket stands with ⟨-, -, checked, -⟩
    rcases covered.listed stands with ⟨home, present, hashListed⟩
    exact ⟨checked, home, sorts.device_insertAll covered.consists present, hashListed⟩
  rw [Registry.on_importGenesis (sorts.check covered), on_importBuckets_of_listed listed,
    ← Store.insertAll_append, Store.insertAll_empty sorts.mem_iff]

/-! ## Main result -/

/-- Whatever a registry has become, its export is in order and can be imported to the same store. -/
theorem importGenesis_exportGenesis (reached : Reached store) :
    ∃ genesis, exportGenesis store = .ok genesis ∧ genesis.check = .ok () ∧
      (genesis.devices.Pairwise fun left right => left.id.bytes < right.id.bytes) ∧
      (genesis.buckets.Pairwise fun left right => left.hash.bytes < right.hash.bytes) ∧
      (importGenesis genesis).on .empty = (.ok (), store) := by
  have covered := reached.covered
  rcases exists_exportGenesis covered.consists with ⟨genesis, exported, sorts⟩
  exact ⟨genesis, exported, sorts.check covered, sorts.devices_ascend, sorts.buckets_ascend,
    sorts.on_importGenesis covered⟩

theorem importGenesis_exportGenesis_entangledStore :
    Reached entangledStore ∧
      ∃ genesis, exportGenesis entangledStore = .ok genesis ∧ genesis.check = .ok () ∧
        (genesis.devices.Pairwise fun left right => left.id.bytes < right.id.bytes) ∧
        (genesis.buckets.Pairwise fun left right => left.hash.bytes < right.hash.bytes) ∧
        (importGenesis genesis).on .empty = (.ok (), entangledStore) :=
  ⟨reached_entangledStore, importGenesis_exportGenesis reached_entangledStore⟩

end Registry

end DeviceRegistry
