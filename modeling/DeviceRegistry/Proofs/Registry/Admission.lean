import Mathlib
import DeviceRegistry.Proofs.Registry.Entanglement
/-!
# A genesis is imported exactly if it passes its check

An import makes checks of its own in each of its writes, and it looks devices up again in
between. None of that may fail once the first entry is written, whatever the store held
before: an entry that cannot be read is no obstacle, since every device that is looked up has
been written by the import itself.

A device or a bucket may be listed several times. A later bucket may then be written over an
earlier one, and a later device cannot come after a bucket. So what an import has stored and
listed so far stays stored and listed.
-/

namespace DeviceRegistry.Registry

variable {store middle after : Store} {stored : Bucket}

/-- Devices stay registered and list what they did; hashes keep a bucket, if maybe another one. -/
structure Retains (store after : Store) : Prop where
  device : ∀ {address found}, device store address = .ok found →
    ∃ next, device after address = .ok next ∧ found.buckets ⊆ next.buckets
  bucket : ∀ {hash stored}, bucket store hash = .ok stored → ∃ next, bucket after hash = .ok next

/-- Something is stored under the hash of a bucket, and the device of the bucket lists it. -/
def Enrolled (store : Store) (stored : Bucket) : Prop :=
  (∃ kept, bucket store stored.hash = .ok kept) ∧ Lists store stored.device stored.hash

namespace Retains

theorem refl (store : Store) : Retains store store where
  device {_ found} present := ⟨found, present, List.Subset.refl _⟩
  bucket {_ stored} stands := ⟨stored, stands⟩

theorem trans (first : Retains store middle) (second : Retains middle after) :
    Retains store after where
  device present := by
    rcases first.device present with ⟨next, presentNext, more⟩
    rcases second.device presentNext with ⟨last, presentLast, evenMore⟩
    exact ⟨last, presentLast, List.Subset.trans more evenMore⟩
  bucket stands := by
    rcases first.bucket stands with ⟨next, standsNext⟩
    exact second.bucket standsNext

theorem enrolled (retains : Retains store after) (enrolled : Enrolled store stored) :
    Enrolled after stored := by
  rcases enrolled with ⟨⟨kept, stands⟩, found, present, member⟩
  rcases retains.device present with ⟨next, presentNext, more⟩
  exact ⟨retains.bucket stands, next, presentNext, more member⟩

theorem put_bucket (store : Store) (hash : BucketHash) (stored : Bucket) :
    Retains store (store.put (.bucket hash) stored) where
  device {_ found} present := ⟨found, by simp [present], List.Subset.refl _⟩
  bucket {other found} stands := by
    by_cases here : other = hash
    · exact ⟨stored, by simp [here]⟩
    · exact ⟨found, by simp [here, stands]⟩

theorem put_device {address : Address} {found listing : Device}
    (present : Registry.device store address = .ok found)
    (owned : listing.owner.isEmpty = false) (more : found.buckets ⊆ listing.buckets) :
    Retains store (store.put (.device address) listing) where
  device {other known} presentToo := by
    rw [device_put_device store owned]
    by_cases here : other = address
    · subst here
      cases presentToo.symm.trans present
      exact ⟨listing, if_pos rfl, more⟩
    · exact ⟨known, by simp [here, presentToo], List.Subset.refl _⟩
  bucket {_ found} stands := ⟨found, by simp [stands]⟩

end Retains

/-! ## Buckets -/

theorem enrolled_importBucket {home : Device} (checked : checkBucket stored = .ok ())
    (present : device store stored.device = .ok home) :
    ∃ after, (importBucket stored).on store = (.ok (), after) ∧ Retains store after ∧
      Enrolled after stored := by
  have written := Retains.put_bucket store stored.hash stored
  by_cases listed : stored.hash ∈ home.buckets
  · refine ⟨_, on_importBucket_of_listed checked present listed, written, ?_⟩
    refine ⟨⟨stored, by simp⟩, home, ?_, listed⟩
    simp [present]
  · refine ⟨_, on_importBucket_of_unlisted checked present listed, ?_, ?_⟩
    · apply written.trans
      apply Retains.put_device
      · rw [device_put_bucket]
        exact present
      · have owned := owner_of_device present
        exact owned
      · simp
    · have owned := owner_of_device present
      refine ⟨⟨stored, by simp⟩, _, device_put_device_self _ (by exact owned), ?_⟩
      simp

/-- A loop over buckets goes through once all their devices are registered. -/
theorem enrolled_importBuckets {buckets : List Bucket}
    (ready : ∀ stored ∈ buckets,
      checkBucket stored = .ok () ∧ ∃ home, device store stored.device = .ok home) :
    ∃ after, (buckets.forM importBucket).on store = (.ok (), after) ∧ Retains store after ∧
      ∀ stored ∈ buckets, Enrolled after stored := by
  induction buckets generalizing store with
  | nil => exact ⟨store, rfl, .refl store, by simp⟩
  | cons first rest hypothesis =>
    rcases ready first List.mem_cons_self with ⟨checkedFirst, home, present⟩
    rcases enrolled_importBucket checkedFirst present with ⟨middle, done, retains, enrolled⟩
    have readyRest : ∀ stored ∈ rest,
        checkBucket stored = .ok () ∧ ∃ home, device middle stored.device = .ok home := by
      intro stored member
      rcases ready stored (List.mem_cons_of_mem _ member) with ⟨checked, found, there⟩
      rcases retains.device there with ⟨next, presentNext, -⟩
      exact ⟨checked, next, presentNext⟩
    rcases hypothesis readyRest with ⟨after, doneRest, retainsRest, enrolledRest⟩
    refine ⟨after, ?_, retains.trans retainsRest, ?_⟩
    · rw [List.forM, Operation.on_bind_of_ok done]
      exact doneRest
    · intro stored member
      rcases List.mem_cons.mp member with rfl | member
      · exact retainsRest.enrolled enrolled
      · exact enrolledRest stored member

/-! ## Main result -/

theorem on_importGenesis_of_fault {genesis : Genesis} {fault : RegistryError} (store : Store)
    (refused : genesis.check = .error fault) :
    (importGenesis genesis).on store = (.error fault, store) := by
  rw [importGenesis, Operation.on_bind, Operation.on_liftExcept, refused]

theorem enrolled_importGenesis {genesis : Genesis} (checked : genesis.check = .ok ())
    (store : Store) :
    ∃ after, (importGenesis genesis).on store = (.ok (), after) ∧
      ∀ listed ∈ genesis.buckets, Enrolled after listed := by
  rcases enrolled_importBuckets (ready_of_check checked store) with ⟨after, done, -, enrolled⟩
  refine ⟨after, ?_, enrolled⟩
  rw [on_importGenesis checked]
  exact done

/-- On any store an import answers what the check answers, and only a success writes. -/
theorem importGenesis_answers_check (genesis : Genesis) (store : Store) :
    ∃ after, (importGenesis genesis).on store = (genesis.check, after) ∧
      (∀ error, genesis.check = .error error → after = store) ∧
      (genesis.check = .ok () → ∀ listed ∈ genesis.buckets,
        (∃ kept, bucket after listed.hash = .ok kept) ∧
          ∃ home, device after listed.device = .ok home ∧ listed.hash ∈ home.buckets) := by
  rcases checked : genesis.check with fault | ⟨⟩
  · refine ⟨store, on_importGenesis_of_fault store checked, ?_, ?_⟩
    · intro error _
      rfl
    · intro passed
      contradiction
  · rcases enrolled_importGenesis checked store with ⟨after, done, enrolled⟩
    refine ⟨after, done, ?_, ?_⟩
    · intro error refused
      contradiction
    · intro _
      exact enrolled

end DeviceRegistry.Registry
