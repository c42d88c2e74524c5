import Mathlib
import DeviceRegistry.Proofs.Registry.Growth
import DeviceRegistry.Proofs.Registry.Loading
/-!
# What a deletion takes along

A deletion takes out every bucket that the device lists, whosever it is. Messages add to
the list of a device only what they open for it, so it is the genesis that decides: a
bucket of another device goes exactly if the genesis grants its hash to the device that is
deleted.

A genesis may do so in two ways. It may list a device with any hashes, and nothing compares
them with the buckets. It may also list a bucket whose hash is the hash of another one.
-/

namespace DeviceRegistry

/-- A device is listed with a hash, or it is listed and so is a bucket of it with that hash. -/
def Genesis.Grants (genesis : Genesis) (address : Address) (hash : BucketHash) : Prop :=
  ∃ last ∈ genesis.lastDevice? address, hash ∈ last.buckets ∨
    ∃ listed ∈ genesis.buckets, listed.device = address ∧ listed.hash = hash

namespace Registry

variable {store after : Store} {address : Address} {hash : BucketHash}

/-- A registered device lists a hash. -/
def Lists (store : Store) (address : Address) (hash : BucketHash) : Prop :=
  ∃ found, device store address = .ok found ∧ hash ∈ found.buckets

/-- A stored bucket is one of a device. -/
def Owns (store : Store) (address : Address) (hash : BucketHash) : Prop :=
  ∃ stored, bucket store hash = .ok stored ∧ stored.device = address

theorem Loaded.lists_iff {genesis : Genesis} (loaded : Loaded genesis store) :
    Lists store address hash ↔ genesis.Grants address hash := by
  unfold Lists Genesis.Grants
  rw [loaded.device]
  rcases found : genesis.lastDevice? address with _ | last
  · simp
  · have sameId := (Genesis.of_lastDevice? found).2
    simp only [Except.ok.injEq, exists_eq_left', Option.mem_def, Option.some.injEq,
      Device.mem_buckets_foldl_takeIn, sameId]

/-! ## Lists grow by what is opened -/

theorem Grows.lists (grows : Grows store after) (lists : Lists store address hash) :
    Lists after address hash := by
  rcases lists with ⟨found, present, member⟩
  rcases grows.device present with ⟨next, presentNext, -, -, more⟩
  exact ⟨next, presentNext, more.subset member⟩

theorem Grows.owns (grows : Grows store after) (owns : Owns store address hash) :
    Owns after address hash := by
  rcases owns with ⟨stored, stands, own⟩
  rcases grows.bucket stands with ⟨next, standsNext, sameDevice, -⟩
  exact ⟨next, standsNext, sameDevice.trans own⟩

/-- A device that is written lists nothing but what it listed before. -/
theorem lists_of_put_device {other : Address} {stored : Device}
    (owned : stored.owner.isEmpty = false)
    (old : ∀ hash ∈ stored.buckets, Lists store other hash)
    (lists : Lists (store.put (.device other) stored) address hash) :
    Lists store address hash := by
  rcases lists with ⟨found, present, member⟩
  rw [device_put_device store owned] at present
  split at present
  · rename_i here
    subst here
    cases present
    exact old hash member
  · exact ⟨found, present, member⟩

/-- No step makes a device list a hash, except for a bucket that the step opens for it. -/
theorem Step.lists {mark : Mark} (step : Step store mark after)
    (lists : Lists after address hash) : Lists store address hash ∨ Owns after address hash := by
  cases step with
  | register name absent named owned =>
    left
    apply lists_of_put_device _ _ lists
    · exact owned
    · intro hash member
      cases member
  | handOver present named owned =>
    left
    apply lists_of_put_device _ _ lists
    · exact owned
    · intro hash member
      exact ⟨_, present, member⟩
  | editChannels update present named =>
    have owned := owner_of_device present
    left
    apply lists_of_put_device _ _ lists
    · exact owned
    · intro hash member
      exact ⟨_, present, member⟩
  | extend present listed stored fresh checked =>
    left
    simpa [Lists] using lists
  | @openBucket other channelId channel reading found present listed unknown named channelNamed =>
    have owned := owner_of_device present
    rcases lists with ⟨next, presentNext, member⟩
    rw [device_put_device _ (by exact owned), device_put_bucket] at presentNext
    split at presentNext
    · rename_i here
      subst here
      cases presentNext
      rcases List.mem_append.mp member with old | new
      · exact Or.inl ⟨found, present, old⟩
      · -- The hash is the one that was added, and its bucket has been written right before.
        right
        rw [List.mem_singleton.mp new]
        refine ⟨(Bucket.new address channel reading.instant).push reading, ?_, rfl⟩
        rw [bucket_put_device, bucket_put_bucket, if_pos rfl]
    · exact Or.inl ⟨next, presentNext, member⟩

theorem Covered.lists_handleEach (covered : Covered store) (messages : List Message)
    (lists : Lists (Registry.handleEach store messages).2 address hash) :
    Lists store address hash ∨ Owns (Registry.handleEach store messages).2 address hash := by
  refine covered.handleEach_preserves_of_step
    (fun next => Lists next address hash → Lists store address hash ∨ Owns next address hash)
    ?_ Or.inl messages lists
  intro before mark next coveredHere step hypothesis listsNext
  rcases step.lists listsNext with old | own
  · rcases hypothesis old with older | own
    · exact Or.inl older
    · exact Or.inr ((step.grows coveredHere).owns own)
  · exact Or.inr own

/-! ## Main result -/

/-- What the deletion of a device does to everything that is not its own. -/
structure Deletes (genesis : Genesis) (address : Address) (store after : Store) : Prop where
  devices : ∀ other ≠ address,
    after.get? (StoreKey.device other).bytes = store.get? (StoreKey.device other).bytes
  taken : ∀ hash stored, bucket store hash = .ok stored → stored.device ≠ address →
    genesis.Grants address hash → after.get? (StoreKey.bucket hash).bytes = none
  kept : ∀ hash stored, bucket store hash = .ok stored → stored.device ≠ address →
    ¬genesis.Grants address hash →
    after.get? (StoreKey.bucket hash).bytes = store.get? (StoreKey.bucket hash).bytes

theorem deletes_of_lists {genesis : Genesis} {found : Device}
    (present : device store address = .ok found)
    (foreign : ∀ hash stored, bucket store hash = .ok stored → stored.device ≠ address →
      (hash ∈ found.buckets ↔ genesis.Grants address hash)) :
    ((deleteDevice address).on store).1 = .ok () ∧
      Deletes genesis address store ((deleteDevice address).on store).2 := by
  rw [on_deleteDevice present]
  refine ⟨rfl, ?_, ?_, ?_⟩
  · intro other different
    rw [Store.get?_dropAll_key, if_neg]
    simp [keysOf, different]
  · intro hash stored stands elsewhere granted
    rw [Store.get?_dropAll_key, if_pos]
    simp [keysOf, (foreign hash stored stands elsewhere).mpr granted]
  · intro hash stored stands elsewhere refused
    rw [Store.get?_dropAll_key, if_neg]
    simpa [keysOf, foreign hash stored stands elsewhere] using refused

/-- A deletion takes along what the genesis granted, and nothing else of other devices. -/
theorem deletes_of_importGenesis {genesis : Genesis} (messages : List Message) {found : Device}
    (succeeds : ((importGenesis genesis).on .empty).1 = .ok ())
    (present : device (handleEach ((importGenesis genesis).on .empty).2 messages).2 address =
      .ok found) :
    ((deleteDevice address).on (handleEach ((importGenesis genesis).on .empty).2 messages).2).1 =
        .ok () ∧
      Deletes genesis address (handleEach ((importGenesis genesis).on .empty).2 messages).2
        ((deleteDevice address).on
          (handleEach ((importGenesis genesis).on .empty).2 messages).2).2 := by
  have checked := check_of_importGenesis succeeds
  have covered := (Covered.importGenesis checked).2
  have loaded := (loaded_importGenesis checked).2
  apply deletes_of_lists present
  intro hash stored stands elsewhere
  constructor
  · intro member
    rcases covered.lists_handleEach messages ⟨found, present, member⟩ with lists | owns
    · exact loaded.lists_iff.mp lists
    · -- A bucket that was opened for the device belongs to it still, so it is not this one.
      rcases owns with ⟨own, standsToo, here⟩
      cases stands.symm.trans standsToo
      exact absurd here elsewhere
  · intro granted
    rcases (covered.grows_handleEach messages).lists (loaded.lists_iff.mpr granted) with
      ⟨home, presentToo, member⟩
    cases present.symm.trans presentToo
    exact member

/-- The first device of an entangled registry gets a bucket that the second one does not list. -/
def unlistedDay : List Message :=
  [.addReadings ⟨⟨[1]⟩, [.new "a" 172800 ⟨0⟩]⟩]

/-- The second device takes the older bucket of the first one along. -/
theorem deletes_entangled :
    entangled.Grants ⟨[2]⟩ (.ofDay ⟨[1]⟩ ⟨"a", "temperature"⟩ 86400) ∧
      Deletes entangled ⟨[2]⟩ (handleEach ((importGenesis entangled).on .empty).2 unlistedDay).2
        ((deleteDevice ⟨[2]⟩).on
          (handleEach ((importGenesis entangled).on .empty).2 unlistedDay).2).2 := by
  constructor
  · exact ⟨_, rfl, Or.inl List.mem_cons_self⟩
  · exact (deletes_of_importGenesis unlistedDay (Covered.importGenesis (by decide)).1
      (by decide +kernel : device (handleEach ((importGenesis entangled).on .empty).2
        unlistedDay).2 ⟨[2]⟩ = .ok ⟨⟨[2]⟩, ⟨[9]⟩, "spy", [],
          [.ofDay ⟨[1]⟩ ⟨"a", "temperature"⟩ 86400,
            .ofDay ⟨[1]⟩ ⟨"a", "temperature"⟩ 86400]⟩)).2

theorem not_only_own_deleted :
    ¬∀ (genesis : Genesis) (messages : List Message) (address : Address) (found : Device)
      (hash : BucketHash) (stored : Bucket),
      ((importGenesis genesis).on .empty).1 = .ok () →
      device (handleEach ((importGenesis genesis).on .empty).2 messages).2 address = .ok found →
      bucket (handleEach ((importGenesis genesis).on .empty).2 messages).2 hash = .ok stored →
      stored.device ≠ address →
      ((deleteDevice address).on
          (handleEach ((importGenesis genesis).on .empty).2 messages).2).2.get?
            (StoreKey.bucket hash).bytes =
        (handleEach ((importGenesis genesis).on .empty).2 messages).2.get?
          (StoreKey.bucket hash).bytes := by
  intro untouched
  have succeeds := (Covered.importGenesis (by decide : entangled.check = .ok ())).1
  have present : device (handleEach ((importGenesis entangled).on .empty).2 []).2 ⟨[2]⟩ =
      .ok ⟨⟨[2]⟩, ⟨[9]⟩, "spy", [], [.ofDay ⟨[1]⟩ ⟨"a", "temperature"⟩ 86400,
        .ofDay ⟨[1]⟩ ⟨"a", "temperature"⟩ 86400]⟩ := by decide +kernel
  have stands : bucket (handleEach ((importGenesis entangled).on .empty).2 []).2
      (.ofDay ⟨[1]⟩ ⟨"a", "temperature"⟩ 86400) =
        .ok ⟨⟨[1]⟩, ⟨"a", "temperature"⟩, 86400, [⟨7, ⟨0⟩, ""⟩]⟩ := by decide +kernel
  have kept := untouched entangled [] ⟨[2]⟩ _ _ _ succeeds present stands (by decide)
  rw [on_deleteDevice present, Store.get?_dropAll_key, if_pos (by simp [keysOf])] at kept
  rw [bucket_of_get?_eq_none kept.symm] at stands
  cases stands

end Registry

end DeviceRegistry
