import Mathlib
import DeviceRegistry.Proofs.Registry.Coverage
/-!
# Deletions leave nothing behind

Since a device lists all of its buckets, deleting it takes every one of them out. So a
device that is not registered has no buckets, and whatever is asked next opens none for
it. In particular a device that registers again begins without buckets.

A deletion may take more than that, because a device may list buckets of other devices.
-/

namespace DeviceRegistry.Registry

open Binary

/-- No bucket of a device is stored. -/
def Bare (store : Store) (address : Address) : Prop :=
  ∀ hash stored, bucket store hash = .ok stored → stored.device ≠ address

/-- What is promised of the buckets in every store that a registry goes through. -/
structure OrphanFree (store : Store) : Prop where
  /-- There is nothing but devices and buckets. -/
  known : ∀ {bytes value}, store.get? bytes = some value →
    (∃ address : Address, bytes = 0x01 :: address.bytes) ∨
      ∃ hash : BucketHash, bytes = 0x02 :: hash.bytes
  /-- A bucket is stored under its own hash, and its device is registered and lists it. -/
  housed : ∀ {hash : BucketHash} {value}, store.get? (0x02 :: hash.bytes) = some value →
    ∃ stored : Bucket, decodeFirst value = .ok stored ∧
      .ofDay stored.device stored.channel stored.instant = hash ∧
      ∃ home, device store stored.device = .ok home ∧ hash ∈ home.buckets
  /-- A device that is deleted is gone with all of its buckets. -/
  deleted : ∀ {address}, ((deleteDevice address).on store).1 = .ok () →
    ((deleteDevice address).on store).2.get? (0x01 :: address.bytes) = none ∧
      Bare ((deleteDevice address).on store).2 address
  /-- A device that is not registered begins without buckets, whatever is asked next. -/
  fresh : ∀ {address}, (∀ home, device store address ≠ .ok home) →
    Bare store address ∧ ∀ request : Request, Bare (request.after store) address

variable {store after : Store} {address : Address}

theorem Covered.bare (covered : Covered store) (absent : ∀ home, device store address ≠ .ok home) :
    Bare store address := by
  rintro hash stored stands rfl
  rcases covered.listed stands with ⟨home, present, -⟩
  exact absent home present

theorem bare_after_deleteDevice (covered : Covered store)
    (succeeds : ((deleteDevice address).on store).1 = .ok ()) :
    ((deleteDevice address).on store).2.get? (StoreKey.device address).bytes = none ∧
      Bare ((deleteDevice address).on store).2 address := by
  cases present : device store address with
  | error error =>
    rw [on_deleteDevice_of_error present] at succeeds
    contradiction
  | ok found =>
    rw [on_deleteDevice present]
    constructor
    · simp [Store.get?_dropAll_key, keysOf]
    · intro hash stored stands
      exact (covered.elsewhere_of_dropAll present stands).2

/-! ## Buckets are opened for registered devices only -/

theorem Bare.put_device (bare : Bare store address) (other : Address) (stored : Device) :
    Bare (store.put (.device other) stored) address := by
  intro hash found stands
  rw [bucket_put_device] at stands
  exact bare hash found stands

theorem Bare.put_bucket (bare : Bare store address) {hash : BucketHash} {stored : Bucket}
    (elsewhere : stored.device ≠ address) : Bare (store.put (.bucket hash) stored) address := by
  intro other found stands
  rw [bucket_put_bucket] at stands
  split at stands
  · cases stands
    exact elsewhere
  · exact bare other found stands

theorem Bare.arrival (bare : Bare store address) (absent : ∀ home, device store address ≠ .ok home)
    {other : Address} {channelId : String} {instant : Int64} {reading : Reading}
    (arrival : Arrival store other channelId instant reading after) : Bare after address := by
  cases arrival with
  | nothing => exact bare
  | extended present listed stored fresh checked =>
    have elsewhere := bare _ _ stored
    exact bare.put_bucket elsewhere
  | opened present listed unknown named channelNamed =>
    apply Bare.put_device
    apply bare.put_bucket
    rintro rfl
    exact absent _ present

theorem Bare.drop (bare : Bare store address) (keys : List StoreKey) :
    Bare (store.dropAll keys) address := by
  intro hash stored stands
  rw [bucket_dropAll] at stands
  split at stands
  · contradiction
  · exact bare hash stored stands

/-- Whatever is asked, a device that is not registered gets no bucket. -/
theorem Bare.effect (bare : Bare store address) (absent : ∀ home, device store address ≠ .ok home)
    (effect : Effect store after) : Bare after address := by
  cases effect with
  | orderly effect =>
    cases effect with
    | steps steps registered =>
      rintro hash stored stands rfl
      -- Of several steps only the first one starts where the device is absent, so the bucket is
      -- traced back to the store before them, or to coordinates that are permitted.
      rcases steps.stored_or_named ⟨hash, stored, stands, rfl⟩ with
        ⟨known, before, standsBefore, same⟩ | permitted
      · exact bare known before standsBefore (congrArg Coordinates.device same)
      · rcases registered _ permitted with ⟨home, present⟩
        exact absent home present
    | deletion present => exact bare.drop _
  | revision => exact bare.put_device _ _
  | arrival arrival => exact bare.arrival absent arrival

/-! ## Main result -/

/-- A registry has no orphans, however it began and whatever was asked of it. -/
theorem orphanFree_of_reached (reached : Reached store) : OrphanFree store where
  known {bytes value} stands := by
    rcases reached.covered.consists.known stands with ⟨key, rfl⟩
    cases key with
    | device address => exact Or.inl ⟨address, rfl⟩
    | bucket hash => exact Or.inr ⟨hash, rfl⟩
  housed {hash value} stands := by
    rcases reached.covered.consists.bucket stands with ⟨stored, rfl, hashSame, -⟩
    have found := bucket_of_get?_eq_some stands
    exact ⟨stored, decodeFirst_encode stored, hashSame, reached.covered.listed found⟩
  deleted succeeds := bare_after_deleteDevice reached.covered succeeds
  fresh absent :=
    ⟨reached.covered.bare absent, fun request =>
      (reached.covered.bare absent).effect absent (request.effect store)⟩

/-- The second device goes and takes a bucket of the first one along. -/
theorem orphanFree_entangledStore :
    Reached ((Request.call (.deleteDevice ⟨[2]⟩) rfl).after entangledStore) ∧
      OrphanFree ((Request.call (.deleteDevice ⟨[2]⟩) rfl).after entangledStore) :=
  ⟨reached_entangledStore.asked _, orphanFree_of_reached (reached_entangledStore.asked _)⟩

end DeviceRegistry.Registry
