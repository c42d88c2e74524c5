import Mathlib
import DeviceRegistry.Proofs.Registry.Import
/-!
# What an import keeps

A genesis may list a device or a bucket several times, and two buckets meet as soon as
their hashes are equal. The entries are written one after the other, so that the last one
of a kind is the one that is kept. A kept device lists, in addition, each of its buckets
that it did not list already.

So an import drops a reading or a channel without a refusal, exactly if the last entry
lacks what an earlier one had.
-/

namespace DeviceRegistry

/-- A device that lists a bucket of its own, unless it does so already. -/
def Device.takeIn (device : Device) (stored : Bucket) : Device :=
  if stored.device = device.id ∧ stored.hash ∉ device.buckets then
    { device with buckets := device.buckets ++ [stored.hash] }
  else device

namespace Device

variable {buckets : List Bucket}

theorem id_takeIn (device : Device) (stored : Bucket) : (device.takeIn stored).id = device.id := by
  unfold takeIn
  split <;> rfl

theorem channels_takeIn (device : Device) (stored : Bucket) :
    (device.takeIn stored).channels = device.channels := by
  unfold takeIn
  split <;> rfl

theorem takeIn_of_ne {device : Device} {stored : Bucket} (elsewhere : stored.device ≠ device.id) :
    device.takeIn stored = device := by
  simp [takeIn, elsewhere]

theorem mem_buckets_takeIn {device : Device} {stored : Bucket} {hash : BucketHash} :
    hash ∈ (device.takeIn stored).buckets ↔
      hash ∈ device.buckets ∨ stored.device = device.id ∧ stored.hash = hash := by
  unfold takeIn
  split
  · rename_i new
    simp only [List.mem_append, List.mem_singleton, new.1, true_and, eq_comm]
  · rename_i old
    constructor
    · exact Or.inl
    · rintro (listed | ⟨own, rfl⟩)
      · exact listed
      · by_contra missing
        exact old ⟨own, missing⟩

theorem channels_foldl_takeIn (buckets : List Bucket) (device : Device) :
    (buckets.foldl takeIn device).channels = device.channels := by
  induction buckets generalizing device with
  | nil => rfl
  | cons first rest hypothesis => exact (hypothesis _).trans (channels_takeIn device first)

theorem mem_buckets_foldl_takeIn {device : Device} {hash : BucketHash} :
    hash ∈ (buckets.foldl takeIn device).buckets ↔
      hash ∈ device.buckets ∨
        ∃ stored ∈ buckets, stored.device = device.id ∧ stored.hash = hash := by
  induction buckets generalizing device with
  | nil => simp
  | cons first rest hypothesis =>
    rw [List.foldl_cons, hypothesis, mem_buckets_takeIn, id_takeIn]
    simp only [List.mem_cons, exists_eq_or_imp, or_assoc]

end Device

namespace Genesis

/-- The last device that is listed with an address. -/
def lastDevice? (genesis : Genesis) (address : Address) : Option Device :=
  genesis.devices.reverse.find? fun device => device.id = address

/-- The last bucket that is listed with a hash. -/
def lastBucket? (genesis : Genesis) (hash : BucketHash) : Option Bucket :=
  genesis.buckets.reverse.find? fun bucket => bucket.hash = hash

variable {genesis : Genesis}

theorem of_lastDevice? {address : Address} {last : Device}
    (found : genesis.lastDevice? address = some last) :
    last ∈ genesis.devices ∧ last.id = address :=
  ⟨by simpa using List.mem_of_find?_eq_some found, by simpa using List.find?_some found⟩

theorem of_lastBucket? {hash : BucketHash} {last : Bucket}
    (found : genesis.lastBucket? hash = some last) :
    last ∈ genesis.buckets ∧ last.hash = hash :=
  ⟨by simpa using List.mem_of_find?_eq_some found, by simpa using List.find?_some found⟩

theorem exists_lastDevice? {listed : Device} (member : listed ∈ genesis.devices) :
    ∃ last, genesis.lastDevice? listed.id = some last := by
  rw [← Option.isSome_iff_exists, lastDevice?, List.find?_isSome]
  exact ⟨listed, by simpa using member, by simp⟩

theorem exists_lastBucket? {listed : Bucket} (member : listed ∈ genesis.buckets) :
    ∃ last, genesis.lastBucket? listed.hash = some last := by
  rw [← Option.isSome_iff_exists, lastBucket?, List.find?_isSome]
  exact ⟨listed, by simpa using member, by simp⟩

/-- The last of the entries with one key has whatever the earlier ones have. -/
structure Cumulative (genesis : Genesis) : Prop where
  buckets : ∀ listed ∈ genesis.buckets, ∀ last ∈ genesis.lastBucket? listed.hash,
    listed.readings ⊆ last.readings
  devices : ∀ listed ∈ genesis.devices, ∀ last ∈ genesis.lastDevice? listed.id,
    listed.channels ⊆ last.channels

/-- Where each key is listed once, there is nothing to be lost. -/
theorem Cumulative.of_nodup (buckets : (genesis.buckets.map Bucket.hash).Nodup)
    (devices : (genesis.devices.map Device.id).Nodup) : genesis.Cumulative where
  buckets listed member last found := by
    rcases of_lastBucket? found with ⟨lastMember, sameHash⟩
    rw [List.inj_on_of_nodup_map buckets lastMember member sameHash]
    exact List.Subset.refl _
  devices listed member last found := by
    rcases of_lastDevice? found with ⟨lastMember, sameId⟩
    rw [List.inj_on_of_nodup_map devices lastMember member sameId]
    exact List.Subset.refl _

end Genesis

namespace Registry

variable {store : Store}

/-! ## Buckets -/

/-- Every registered device is found under its own id. -/
def Placed (store : Store) : Prop :=
  ∀ address found, device store address = .ok found → found.id = address

theorem placed_insertAll_devices {devices : List Device}
    (owned : ∀ device ∈ devices, device.owner.isEmpty = false) :
    Placed (Store.empty.insertAll (devices.map Device.entry)) := by
  intro address found there
  rw [device_insertAll_devices owned] at there
  rcases listed : devices.reverse.find? fun device => device.id = address with _ | last
  · rw [listed, device_of_get?_eq_none (Store.get?_empty _)] at there
    contradiction
  · rw [listed] at there
    cases there
    simpa using List.find?_some listed

/-- What a bucket of an import does to each device and to each bucket. -/
theorem importBucket_writes {stored : Bucket} (placed : Placed store)
    (checked : checkBucket stored = .ok ()) {home : Device}
    (present : device store stored.device = .ok home) :
    ∃ after, (importBucket stored).on store = (.ok (), after) ∧
      (∀ address, device after address = (device store address).map (·.takeIn stored)) ∧
      ∀ hash, bucket after hash = if hash = stored.hash then .ok stored else bucket store hash := by
  have idSame := placed _ _ present
  -- A device takes a bucket in by its own id, so only the one that is written may differ.
  have elsewhere : ∀ address, address ≠ stored.device →
      device store address = (device store address).map (·.takeIn stored) := by
    intro address different
    rcases there : device store address with error | found
    · rfl
    · have notHome : stored.device ≠ found.id := by
        rw [placed _ _ there]
        exact Ne.symm different
      exact congrArg Except.ok (Device.takeIn_of_ne notHome).symm
  by_cases listed : stored.hash ∈ home.buckets
  · refine ⟨_, on_importBucket_of_listed checked present listed, ?_, ?_⟩
    · intro address
      rw [device_put_bucket]
      by_cases here : address = stored.device
      · rw [here, present]
        simp [Except.map, Device.takeIn, listed]
      · exact elsewhere address here
    · intro hash
      exact bucket_put_bucket store stored.hash hash stored
  · refine ⟨_, on_importBucket_of_unlisted checked present listed, ?_, ?_⟩
    · intro address
      have owned := owner_of_device present
      rw [device_put_device _ (by exact owned), device_put_bucket]
      by_cases here : address = stored.device
      · rw [if_pos here, here, present, placed_of_id _ (by exact idSame)]
        simp [Except.map, Device.takeIn, listed, idSame]
      · rw [if_neg here]
        exact elsewhere address here
    · intro hash
      rw [bucket_put_device, bucket_put_bucket]

/-- Each device takes its buckets in, and of several buckets with one hash the last one is kept. -/
theorem importBuckets_write {buckets : List Bucket} (placed : Placed store)
    (checked : ∀ stored ∈ buckets,
      checkBucket stored = .ok () ∧ ∃ home, device store stored.device = .ok home) :
    ∃ after, (buckets.forM importBucket).on store = (.ok (), after) ∧
      (∀ address, device after address =
        (device store address).map (buckets.foldl Device.takeIn)) ∧
      ∀ hash, bucket after hash =
        match buckets.reverse.find? fun stored => stored.hash = hash with
        | some last => .ok last
        | none => bucket store hash := by
  induction buckets generalizing store with
  | nil =>
    refine ⟨store, rfl, ?_, fun hash => rfl⟩
    intro address
    cases device store address <;> rfl
  | cons first rest hypothesis =>
    rcases checked first List.mem_cons_self with ⟨checkedFirst, home, present⟩
    rcases importBucket_writes placed checkedFirst present with
      ⟨middle, done, devices, buckets⟩
    -- The first bucket changes what its device lists, but neither ids nor who is registered.
    have placedMiddle : Placed middle := by
      intro address found there
      rw [devices] at there
      rcases before : device store address with error | known
      · simp [before, Except.map] at there
      · rw [before] at there
        cases there
        exact (Device.id_takeIn known first).trans (placed _ _ before)
    have checkedRest : ∀ stored ∈ rest,
        checkBucket stored = .ok () ∧ ∃ home, device middle stored.device = .ok home := by
      intro stored member
      rcases checked stored (List.mem_cons_of_mem _ member) with ⟨fine, home, there⟩
      exact ⟨fine, home.takeIn first, by rw [devices, there]; rfl⟩
    rcases hypothesis placedMiddle checkedRest with ⟨after, doneRest, devicesRest, bucketsRest⟩
    refine ⟨after, ?_, ?_, ?_⟩
    · rw [List.forM, Operation.on_bind_of_ok done]
      exact doneRest
    · intro address
      rw [devicesRest, devices]
      cases device store address <;> rfl
    · intro hash
      rw [bucketsRest, buckets, List.reverse_cons, List.find?_append]
      cases rest.reverse.find? fun stored => stored.hash = hash with
      | some last => rfl
      | none =>
        by_cases here : first.hash = hash
        · simp [here]
        · simp [here, Ne.symm here]

/-! ## The whole import -/

/-- A store holds the last entries of a genesis, and nothing else. -/
structure Loaded (genesis : Genesis) (store : Store) : Prop where
  device : ∀ address, device store address =
    match genesis.lastDevice? address with
    | some last => .ok (genesis.buckets.foldl Device.takeIn last)
    | none => .error (.deviceNotFound address)
  bucket : ∀ hash, bucket store hash =
    match genesis.lastBucket? hash with
    | some last => .ok last
    | none => .error (.bucketNotFound hash)

theorem Loaded.of_device {genesis : Genesis} (loaded : Loaded genesis store) {address : Address}
    {found : Device} (present : Registry.device store address = .ok found) :
    ∃ last ∈ genesis.lastDevice? address, genesis.buckets.foldl Device.takeIn last = found := by
  rw [loaded.device] at present
  rcases listed : genesis.lastDevice? address with _ | last
  · rw [listed] at present
    cases present
  · rw [listed] at present
    exact ⟨last, rfl, Except.ok.inj present⟩

theorem Loaded.of_bucket {genesis : Genesis} (loaded : Loaded genesis store) {hash : BucketHash}
    {stored : Bucket} (stands : Registry.bucket store hash = .ok stored) :
    stored ∈ genesis.lastBucket? hash := by
  rw [loaded.bucket] at stands
  rcases listed : genesis.lastBucket? hash with _ | last
  · rw [listed] at stands
    cases stands
  · rw [listed] at stands
    exact congrArg some (Except.ok.inj stands)

/-- An import that passes the check succeeds, and it leaves the last entries. -/
theorem loaded_importGenesis {genesis : Genesis} (checked : genesis.check = .ok ()) :
    ((importGenesis genesis).on .empty).1 = .ok () ∧
      Loaded genesis ((importGenesis genesis).on .empty).2 := by
  have owned : ∀ device ∈ genesis.devices, device.owner.isEmpty = false := by
    intro device member
    exact ((Genesis.check_eq_ok.mp checked).1 device member).2
  rcases importBuckets_write (placed_insertAll_devices owned) (ready_of_check checked .empty) with
    ⟨store, done, devicesAfter, bucketsAfter⟩
  rw [on_importGenesis checked, done]
  refine ⟨rfl, ?_, ?_⟩
  · intro address
    rw [devicesAfter, device_insertAll_devices owned, Genesis.lastDevice?]
    cases genesis.devices.reverse.find? fun device => device.id = address with
    | some last => rfl
    | none =>
      rw [device_of_get?_eq_none (Store.get?_empty _)]
      rfl
  · intro hash
    rw [bucketsAfter, Genesis.lastBucket?]
    cases genesis.buckets.reverse.find? fun stored => stored.hash = hash with
    | some last => rfl
    | none =>
      change bucket _ hash = .error (.bucketNotFound hash)
      rw [bucket_insertAll_devices, bucket_of_get?_eq_none (Store.get?_empty _)]

/-! ## Main result -/

/-- A store has every reading and every channel that a genesis lists. -/
structure Keeps (genesis : Genesis) (store : Store) : Prop where
  readings : ∀ listed ∈ genesis.buckets, ∀ reading ∈ listed.readings,
    ∃ stored, bucket store listed.hash = .ok stored ∧ reading ∈ stored.readings
  channels : ∀ listed ∈ genesis.devices, ∀ channel ∈ listed.channels,
    ∃ found, device store listed.id = .ok found ∧ channel ∈ found.channels

/-- The check looks at each entry alone, so what decides is whether the last entries have all. -/
theorem importGenesis_keeps_iff {genesis : Genesis} (checked : genesis.check = .ok ()) :
    ((importGenesis genesis).on .empty).1 = .ok () ∧
      (Keeps genesis ((importGenesis genesis).on .empty).2 ↔ genesis.Cumulative) := by
  rcases loaded_importGenesis checked with ⟨done, loaded⟩
  refine ⟨done, ?_, ?_⟩
  · intro keeps
    constructor
    · intro listed member last found reading readingMember
      rcases keeps.readings listed member reading readingMember with ⟨stored, stands, kept⟩
      rwa [Option.mem_unique found (loaded.of_bucket stands)]
    · intro listed member last found channel channelMember
      rcases keeps.channels listed member channel channelMember with ⟨home, present, kept⟩
      rcases loaded.of_device present with ⟨other, foundToo, rfl⟩
      rw [Device.channels_foldl_takeIn] at kept
      rwa [Option.mem_unique found foundToo]
  · intro cumulative
    constructor
    · intro listed member reading readingMember
      rcases Genesis.exists_lastBucket? member with ⟨last, found⟩
      refine ⟨last, ?_, cumulative.buckets listed member last found readingMember⟩
      rw [loaded.bucket, found]
    · intro listed member channel channelMember
      rcases Genesis.exists_lastDevice? member with ⟨last, found⟩
      refine ⟨genesis.buckets.foldl Device.takeIn last, ?_, ?_⟩
      · rw [loaded.device, found]
      · rw [Device.channels_foldl_takeIn]
        exact cumulative.devices listed member last found channelMember

/-- A device and a bucket that are listed a second time, with more in them. -/
def continued : Genesis where
  devices :=
    [⟨⟨[1]⟩, ⟨[9]⟩, "meter", [⟨"a", "temperature"⟩], []⟩,
      ⟨⟨[1]⟩, ⟨[9]⟩, "meter", [⟨"b", "humidity"⟩, ⟨"a", "temperature"⟩], []⟩]
  buckets :=
    [⟨⟨[1]⟩, ⟨"a", "temperature"⟩, 86400, [⟨7, ⟨0⟩, ""⟩]⟩,
      ⟨⟨[1]⟩, ⟨"a", "temperature"⟩, 90000, [⟨7, ⟨0⟩, ""⟩, ⟨8, ⟨0⟩, ""⟩]⟩]

theorem continued_kept :
    ((importGenesis continued).on .empty).1 = .ok () ∧
      Keeps continued ((importGenesis continued).on .empty).2 := by
  have checked : continued.check = .ok () := by decide
  rcases importGenesis_keeps_iff checked with ⟨done, keeps⟩
  refine ⟨done, keeps.mpr ⟨?_, ?_⟩⟩
  · decide +kernel
  · decide +kernel

/-- A device and a bucket that are listed a second time, with something else in them. -/
def overlapping : Genesis where
  devices :=
    [⟨⟨[1]⟩, ⟨[9]⟩, "meter", [⟨"a", "temperature"⟩], []⟩,
      ⟨⟨[1]⟩, ⟨[9]⟩, "meter", [⟨"b", "humidity"⟩], []⟩]
  buckets :=
    [⟨⟨[1]⟩, ⟨"a", "temperature"⟩, 86400, [⟨7, ⟨0⟩, ""⟩]⟩,
      ⟨⟨[1]⟩, ⟨"a", "temperature"⟩, 90000, [⟨8, ⟨0⟩, ""⟩]⟩]

/-- The first reading of the day gives way to the second one. -/
theorem not_all_kept :
    ¬∀ genesis : Genesis, genesis.check = .ok () →
      Keeps genesis ((importGenesis genesis).on .empty).2 := by
  intro always
  have checked : overlapping.check = .ok () := by decide
  have keeps := always overlapping checked
  have loaded := (loaded_importGenesis checked).2
  let first : Bucket := ⟨⟨[1]⟩, ⟨"a", "temperature"⟩, 86400, [⟨7, ⟨0⟩, ""⟩]⟩
  rcases keeps.readings first (by simp [overlapping, first]) ⟨7, ⟨0⟩, ""⟩ (by simp [first]) with
    ⟨stored, stands, kept⟩
  have last : overlapping.lastBucket? first.hash =
      some ⟨⟨[1]⟩, ⟨"a", "temperature"⟩, 90000, [⟨8, ⟨0⟩, ""⟩]⟩ := by decide +kernel
  rw [loaded.bucket, last] at stands
  cases stands
  simp at kept

end Registry

end DeviceRegistry
