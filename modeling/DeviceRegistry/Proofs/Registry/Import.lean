import Mathlib
import DeviceRegistry.Proofs.Registry.Operations
import DeviceRegistry.Proofs.Store
import DeviceRegistry.Registry.Transfer
/-!
# What an import does

The check of a genesis foresees every refusal of the import. So an import that passes
the check succeeds on any store: its devices are written one after the other, and then
each bucket finds its device registered.
-/

namespace DeviceRegistry

namespace Operation

/-- A loop whose passes all succeed, as long as an invariant holds, succeeds with it. -/
theorem on_forM {α : Type} (body : α → Operation Unit) (next : Store → α → Store)
    (holds : Store → Prop) {items : List α}
    (goes : ∀ item ∈ items, ∀ before, holds before →
      (body item).on before = (.ok (), next before item) ∧ holds (next before item))
    {store : Store} (start : holds store) :
    (items.forM body).on store = (.ok (), items.foldl next store) ∧
      holds (items.foldl next store) := by
  induction items generalizing store with
  | nil => exact ⟨rfl, start⟩
  | cons first rest hypothesis =>
    rcases goes first List.mem_cons_self store start with ⟨done, holdsNext⟩
    have goesRest : ∀ item ∈ rest, ∀ before, holds before →
        (body item).on before = (.ok (), next before item) ∧ holds (next before item) := by
      intro item member
      exact goes item (List.mem_cons_of_mem _ member)
    rw [List.forM, on_bind_of_ok done]
    exact hypothesis goesRest holdsNext

end Operation

/-- The entry that a device makes in a store. -/
def Device.entry (device : Device) : Bytes × Bytes :=
  ((StoreKey.device device.id).bytes, Binary.Codec.encode device)

/-- The entry that a bucket makes in a store. -/
def Bucket.entry (bucket : Bucket) : Bytes × Bytes :=
  ((StoreKey.bucket bucket.hash).bytes, Binary.Codec.encode bucket)

namespace Genesis

open Registry

theorem deviceFault?_eq_none {device : Device} :
    deviceFault? device = none ↔ device.id.isEmpty = false ∧ device.owner.isEmpty = false := by
  unfold deviceFault?
  split
  · simp_all
  · split <;> simp_all

theorem lists_eq_true {genesis : Genesis} {address : Address} :
    genesis.lists address = true ↔ ∃ device ∈ genesis.devices, device.id = address := by
  simp [lists]

theorem bucketFault?_eq_none {genesis : Genesis} {bucket : Bucket} :
    genesis.bucketFault? bucket = none ↔
      checkBucket bucket = .ok () ∧ (∃ device ∈ genesis.devices, device.id = bucket.device) ∧
        bucket.readings ≠ [] := by
  rw [← lists_eq_true, checkBucket_eq_ok]
  unfold bucketFault?
  cases bucket.device.isEmpty <;> cases bucket.channel.id.isEmpty <;>
    cases genesis.lists bucket.device <;> cases bucket.readings <;> simp

/-- A genesis passes its check if every device and every bucket can be stored. -/
theorem check_eq_ok {genesis : Genesis} :
    genesis.check = .ok () ↔
      (∀ device ∈ genesis.devices, device.id.isEmpty = false ∧ device.owner.isEmpty = false) ∧
        ∀ bucket ∈ genesis.buckets, checkBucket bucket = .ok () ∧
          (∃ device ∈ genesis.devices, device.id = bucket.device) ∧ bucket.readings ≠ [] := by
  have faultless : genesis.check = .ok () ↔ genesis.fault? = none := by
    unfold check
    cases genesis.fault? <;> simp
  simp [faultless, fault?, deviceFault?_eq_none, bucketFault?_eq_none]

end Genesis

namespace Registry

open Operation

variable {store : Store}

/-! ## Devices -/

theorem on_saveDevices {devices : List Device}
    (checked : ∀ device ∈ devices, device.id.isEmpty = false ∧ device.owner.isEmpty = false)
    (store : Store) :
    (devices.forM fun device => saveDevice device.id device).on store =
      (.ok (), store.insertAll (devices.map Device.entry)) := by
  rw [Store.insertAll, List.foldl_map]
  refine (on_forM _ _ (fun _ => True) ?_ trivial).1
  intro device member before _
  rcases checked device member with ⟨named, owned⟩
  have written := on_saveDevice before device named owned
  rw [placed_of_id device rfl] at written
  exact ⟨written, trivial⟩

theorem bucket_insertAll_devices (store : Store) (devices : List Device) (hash : BucketHash) :
    bucket (store.insertAll (devices.map Device.entry)) hash = bucket store hash := by
  induction devices generalizing store with
  | nil => rfl
  | cons first rest hypothesis =>
    exact (hypothesis _).trans (bucket_put_device store first.id first hash)

/-- Of several devices with one id, the last one is found. -/
theorem device_insertAll_devices {devices : List Device}
    (owned : ∀ device ∈ devices, device.owner.isEmpty = false) (address : Address) :
    device (store.insertAll (devices.map Device.entry)) address =
      match devices.reverse.find? fun device => device.id = address with
      | some last => .ok last
      | none => device store address := by
  induction devices generalizing store with
  | nil => rfl
  | cons first rest hypothesis =>
    have ownedRest : ∀ device ∈ rest, device.owner.isEmpty = false := by
      intro device member
      exact owned device (List.mem_cons_of_mem _ member)
    refine (hypothesis ownedRest).trans ?_
    rw [List.reverse_cons, List.find?_append]
    cases rest.reverse.find? fun device => device.id = address with
    | some last => rfl
    | none =>
      have written : device (store.put (.device first.id) first) address =
          if address = first.id then .ok first else device store address :=
        device_put_device store (owned first List.mem_cons_self)
      refine written.trans ?_
      by_cases here : first.id = address
      · simp [here]
      · simp [here, Ne.symm here]

theorem exists_device_insertAll {devices : List Device}
    (owned : ∀ device ∈ devices, device.owner.isEmpty = false) {address : Address}
    (listed : ∃ device ∈ devices, device.id = address) :
    ∃ home, device (store.insertAll (devices.map Device.entry)) address = .ok home := by
  rw [device_insertAll_devices owned]
  rcases found : devices.reverse.find? fun device => device.id = address with _ | last
  · rcases listed with ⟨device, member, here⟩
    rw [List.find?_eq_none] at found
    exact absurd here (by simpa using found device (List.mem_reverse.mpr member))
  · rw [found]
    exact ⟨last, rfl⟩

/-! ## Buckets -/

variable {stored : Bucket} {home : Device}

/-- A bucket that its device lists already is only written. -/
theorem on_importBucket_of_listed (checked : checkBucket stored = .ok ())
    (present : device store stored.device = .ok home) (listed : stored.hash ∈ home.buckets) :
    (importBucket stored).on store = (.ok (), store.put (.bucket stored.hash) stored) := by
  have presentAfter : bucketHashes (store.put (.bucket stored.hash) stored) stored.device =
      .ok home.buckets := by
    rw [bucketHashes, device_put_bucket, present]
    rfl
  rw [importBucket, on_bind_of_ok (on_saveBucket store stored checked), on_bind_ask, presentAfter]
  simp [listed]

/-- Any other bucket is listed after that. -/
theorem on_importBucket_of_unlisted (checked : checkBucket stored = .ok ())
    (present : device store stored.device = .ok home) (unlisted : stored.hash ∉ home.buckets) :
    (importBucket stored).on store =
      (.ok (), (store.put (.bucket stored.hash) stored).put (.device stored.device)
        (placed stored.device { home with buckets := home.buckets ++ [stored.hash] })) := by
  have presentAfter : device (store.put (.bucket stored.hash) stored) stored.device = .ok home := by
    rw [device_put_bucket, present]
  have hashesAfter : bucketHashes (store.put (.bucket stored.hash) stored) stored.device =
      .ok home.buckets := by
    rw [bucketHashes, presentAfter]
    rfl
  rw [importBucket, on_bind_of_ok (on_saveBucket store stored checked), on_bind_ask, hashesAfter]
  have named := (checkBucket_eq_ok.mp checked).1
  have owned := owner_of_device present
  have listing := on_editDevice
    (fun found => { found with buckets := found.buckets ++ [stored.hash] }) presentAfter named owned
  simpa [unlisted, addBucketHash] using listing

/-! ## The whole import -/

/-- When it is the turn of the buckets, the device of each of them is registered. -/
theorem ready_of_check {genesis : Genesis} (checked : genesis.check = .ok ()) (store : Store) :
    ∀ stored ∈ genesis.buckets, checkBucket stored = .ok () ∧ ∃ home,
      device (store.insertAll (genesis.devices.map Device.entry)) stored.device = .ok home := by
  rcases Genesis.check_eq_ok.mp checked with ⟨devices, buckets⟩
  intro stored member
  rcases buckets stored member with ⟨fine, listed, -⟩
  refine ⟨fine, exists_device_insertAll ?_ listed⟩
  intro device member
  exact (devices device member).2

/-- An import that passes the check goes through its devices and then through its buckets. -/
theorem on_importGenesis {genesis : Genesis} (checked : genesis.check = .ok ()) (store : Store) :
    (importGenesis genesis).on store =
      (genesis.buckets.forM importBucket).on
        (store.insertAll (genesis.devices.map Device.entry)) := by
  have devices := on_saveDevices (Genesis.check_eq_ok.mp checked).1 store
  rw [importGenesis, on_bind, on_liftExcept, checked]
  exact on_bind_of_ok devices

theorem check_of_importGenesis {genesis : Genesis}
    (succeeds : ((importGenesis genesis).on store).1 = .ok ()) : genesis.check = .ok () := by
  rw [importGenesis, on_bind, on_liftExcept] at succeeds
  rcases checked : genesis.check with error | ⟨⟩
  · simp [checked] at succeeds
  · rfl

end Registry

end DeviceRegistry
