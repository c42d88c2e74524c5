import Mathlib
import DeviceRegistry.Proofs.Registry.Loading
import DeviceRegistry.Proofs.Registry.RoundTrip
/-!
# The normal form of a genesis

A genesis that passes its check may list devices and buckets in any order, several times, and
devices with any hashes. Imported and exported again it comes out in a normal form: each id and
each hash once and in ascending order, with what was listed for it last.

One thing is added. A device has to list its buckets, so each hash of a bucket of its own that
it lacks is put at the end of its list, in the order of the buckets and only once. What the
device listed before stays as it is, repetitions included.
-/

namespace DeviceRegistry

namespace Device

/-- The hashes of the buckets of a device that it does not list, each of them once. -/
def unlisted (device : Device) (buckets : List Bucket) : List BucketHash :=
  let own := buckets.filter fun bucket => bucket.device = device.id
  ((own.map Bucket.hash).filter fun hash => hash ∉ device.buckets).eraseDups

def completed (device : Device) (buckets : List Bucket) : Device :=
  { device with buckets := device.buckets ++ device.unlisted buckets }

/-- Taking in one bucket after the other comes to adding all hashes that are missing. -/
theorem foldl_takeIn (buckets : List Bucket) (device : Device) :
    buckets.foldl takeIn device = device.completed buckets := by
  induction buckets generalizing device with
  | nil => simp [completed, unlisted]
  | cons first rest hypothesis =>
    rw [List.foldl_cons, hypothesis]
    by_cases own : first.device = device.id
    · by_cases listed : first.hash ∈ device.buckets
      · simp [takeIn, own, listed, completed, unlisted]
      · -- The hash is listed from now on, so it is left out of what follows.
        have fewer (hashes : List BucketHash) :
            hashes.filter (fun hash => hash ∉ device.buckets ++ [first.hash]) =
              (hashes.filter fun hash => hash ∉ device.buckets).filter
                fun hash => !hash == first.hash := by
          rw [List.filter_filter]
          apply List.filter_congr
          intro hash _
          simp [beq_eq_decide, Bool.and_comm]
        simp only [takeIn, own, listed, completed, unlisted, not_false_eq_true, and_self, if_true,
          fewer, decide_true, List.filter_cons_of_pos, List.map_cons, List.eraseDups_cons,
          List.append_assoc, List.singleton_append]
    · simp [takeIn_of_ne own, own, completed, unlisted]

end Device

namespace Genesis

/-- A genesis has the last entries of another one, each device completed, in ascending order. -/
structure NormalForm (genesis exported : Genesis) : Prop where
  devices_ascend : exported.devices.Pairwise fun left right => left.id.bytes < right.id.bytes
  ids : ∀ address,
    (∃ found ∈ exported.devices, found.id = address) ↔ ∃ listed ∈ genesis.devices, listed.id = address
  devices : ∀ found ∈ exported.devices,
    ∃ last ∈ genesis.lastDevice? found.id, found = last.completed genesis.buckets
  buckets_ascend : exported.buckets.Pairwise fun left right => left.hash.bytes < right.hash.bytes
  hashes : ∀ hash,
    (∃ stored ∈ exported.buckets, stored.hash = hash) ↔ ∃ listed ∈ genesis.buckets, listed.hash = hash
  buckets : ∀ stored ∈ exported.buckets, stored ∈ genesis.lastBucket? stored.hash

namespace NormalForm

variable {genesis exported other : Genesis}

theorem devices_subset (normal : genesis.NormalForm exported)
    (normalToo : genesis.NormalForm other) : exported.devices ⊆ other.devices := by
  intro found member
  rcases normal.devices found member with ⟨last, lastFound, completed⟩
  have known := (normal.ids found.id).mp ⟨found, member, rfl⟩
  rcases (normalToo.ids found.id).mpr known with ⟨same, sameMember, sameId⟩
  rcases normalToo.devices same sameMember with ⟨lastToo, lastFoundToo, completedToo⟩
  rw [sameId] at lastFoundToo
  rw [completed, Option.mem_unique lastFound lastFoundToo, ← completedToo]
  exact sameMember

theorem buckets_subset (normal : genesis.NormalForm exported)
    (normalToo : genesis.NormalForm other) : exported.buckets ⊆ other.buckets := by
  intro stored member
  have known := (normal.hashes stored.hash).mp ⟨stored, member, rfl⟩
  rcases (normalToo.hashes stored.hash).mpr known with ⟨same, sameMember, sameHash⟩
  have last := normalToo.buckets same sameMember
  rw [sameHash] at last
  rw [Option.mem_unique (normal.buckets stored member) last]
  exact sameMember

/-- A genesis has only one normal form. -/
theorem unique (normal : genesis.NormalForm exported) (normalToo : genesis.NormalForm other) :
    other = exported := by
  have devices : other.devices = exported.devices := by
    apply Bytes.eq_of_ascending normalToo.devices_ascend normal.devices_ascend
    intro found
    exact ⟨(normalToo.devices_subset normal ·), (normal.devices_subset normalToo ·)⟩
  have buckets : other.buckets = exported.buckets := by
    apply Bytes.eq_of_ascending normalToo.buckets_ascend normal.buckets_ascend
    intro stored
    exact ⟨(normalToo.buckets_subset normal ·), (normal.buckets_subset normalToo ·)⟩
  cases other
  cases exported
  simp_all

end NormalForm

end Genesis

namespace Registry

variable {store : Store} {deviceLaw : Device → Prop} {bucketLaw : Bucket → Prop}
  {exported : Genesis}

/-! ## What an export lists -/

theorem Sorts.mem_devices_iff (sorts : Sorts store.entries exported)
    (consists : Consists deviceLaw bucketLaw store) {address : Address} {found : Device} :
    found ∈ exported.devices ∧ found.id = address ↔ device store address = .ok found := by
  constructor
  · rintro ⟨member, rfl⟩
    exact consists.device_iff.mpr (sorts.get?_of_device member)
  · intro present
    rcases consists.of_device present with ⟨stands, rfl, -⟩
    exact ⟨sorts.mem_devices stands, rfl⟩

theorem Sorts.mem_buckets_iff (sorts : Sorts store.entries exported)
    (consists : Consists deviceLaw bucketLaw store) {hash : BucketHash} {stored : Bucket} :
    stored ∈ exported.buckets ∧ stored.hash = hash ↔ bucket store hash = .ok stored := by
  constructor
  · rintro ⟨member, rfl⟩
    exact bucket_of_get?_eq_some (sorts.get?_of_bucket member)
  · intro stands
    rcases consists.of_bucket stands with ⟨entry, rfl, -⟩
    exact ⟨sorts.mem_buckets entry, rfl⟩

/-! ## What an import registers -/

theorem Loaded.exists_device_iff {genesis : Genesis} (loaded : Loaded genesis store)
    (address : Address) :
    (∃ found, Registry.device store address = .ok found) ↔
      ∃ listed ∈ genesis.devices, listed.id = address := by
  constructor
  · rintro ⟨found, present⟩
    rcases loaded.of_device present with ⟨last, lastFound, -⟩
    exact ⟨last, Genesis.of_lastDevice? lastFound⟩
  · rintro ⟨listed, member, rfl⟩
    rcases Genesis.exists_lastDevice? member with ⟨last, lastFound⟩
    exact ⟨_, by rw [loaded.device, lastFound]⟩

theorem Loaded.exists_bucket_iff {genesis : Genesis} (loaded : Loaded genesis store)
    (hash : BucketHash) :
    (∃ stored, Registry.bucket store hash = .ok stored) ↔
      ∃ listed ∈ genesis.buckets, listed.hash = hash := by
  constructor
  · rintro ⟨stored, stands⟩
    exact ⟨stored, Genesis.of_lastBucket? (loaded.of_bucket stands)⟩
  · rintro ⟨listed, member, rfl⟩
    rcases Genesis.exists_lastBucket? member with ⟨last, lastFound⟩
    exact ⟨last, by rw [loaded.bucket, lastFound]⟩

theorem Loaded.normalForm {genesis : Genesis} (loaded : Loaded genesis store)
    (consists : Consists deviceLaw bucketLaw store) (sorts : Sorts store.entries exported) :
    genesis.NormalForm exported := by
  constructor
  · exact sorts.devices_ascend
  · intro address
    rw [← loaded.exists_device_iff]
    simp only [sorts.mem_devices_iff consists]
  · intro found member
    have present := (sorts.mem_devices_iff consists).mp ⟨member, rfl⟩
    rcases loaded.of_device present with ⟨last, lastFound, taken⟩
    rw [Device.foldl_takeIn] at taken
    exact ⟨last, lastFound, taken.symm⟩
  · exact sorts.buckets_ascend
  · intro hash
    rw [← loaded.exists_bucket_iff]
    simp only [sorts.mem_buckets_iff consists]
  · intro stored member
    exact loaded.of_bucket ((sorts.mem_buckets_iff consists).mp ⟨member, rfl⟩)

/-! ## Main result -/

/-- Whatever passes the check can be exported once it is imported, and comes out normalized. -/
theorem exportGenesis_importGenesis {genesis : Genesis} (checked : genesis.check = .ok ()) :
    ∃ store exported, (importGenesis genesis).on .empty = (.ok (), store) ∧
      exportGenesis store = .ok exported ∧ genesis.NormalForm exported ∧
        ∀ other, genesis.NormalForm other → other = exported := by
  rcases loaded_importGenesis checked with ⟨done, loaded⟩
  have covered := (Covered.importGenesis checked).2
  rcases exists_exportGenesis covered.consists with ⟨exported, collected, sorts⟩
  have normal := loaded.normalForm covered.consists sorts
  refine ⟨_, exported, Prod.ext done rfl, collected, normal, ?_⟩
  intro other normalToo
  exact normal.unique normalToo

/-- Two devices in the wrong order, one of them twice and the other with hashes of its choice. -/
def jumbled : Genesis where
  devices :=
    [⟨⟨[2]⟩, ⟨[9]⟩, "spy", [],
        [.ofDay ⟨[1]⟩ ⟨"a", "temperature"⟩ 86400, .ofDay ⟨[1]⟩ ⟨"a", "temperature"⟩ 86400]⟩,
      ⟨⟨[1]⟩, ⟨[9]⟩, "meter", [⟨"a", "temperature"⟩], []⟩,
      ⟨⟨[1]⟩, ⟨[8]⟩, "gauge", [], [.ofDay ⟨[1]⟩ ⟨"b", "humidity"⟩ 0]⟩]
  buckets :=
    [⟨⟨[1]⟩, ⟨"a", "temperature"⟩, 86400, [⟨7, ⟨0⟩, ""⟩]⟩,
      ⟨⟨[1]⟩, ⟨"b", "humidity"⟩, 3600, [⟨8, ⟨0⟩, ""⟩]⟩,
      ⟨⟨[1]⟩, ⟨"a", "temperature"⟩, 90000, [⟨9, ⟨0⟩, ""⟩]⟩]

theorem exportGenesis_jumbled :
    jumbled.check = .ok () ∧ ∃ store exported,
      (importGenesis jumbled).on .empty = (.ok (), store) ∧ exportGenesis store = .ok exported ∧
        jumbled.NormalForm exported ∧ ∀ other, jumbled.NormalForm other → other = exported := by
  have checked : jumbled.check = .ok () := by decide
  exact ⟨checked, exportGenesis_importGenesis checked⟩

end Registry

end DeviceRegistry
