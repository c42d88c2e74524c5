import Mathlib
import DeviceRegistry.Proofs.Registry.Recorded
/-!
# What a step may touch

A step writes one device entry, one bucket, or both. It touches the entry of a device by
the authority of the device itself or of its owner, and it changes the owner or the
channels of a registered device by the authority of the owner alone.

Where no hash is shared, a step touches a bucket only if its reading is taken at the
coordinates of that bucket.
-/

namespace DeviceRegistry.Registry

namespace Step

variable {store after : Store} {mark : Mark}

theorem entry_touched (step : Step store mark after) (address : Address) :
    after.get? (StoreKey.device address).bytes = store.get? (StoreKey.device address).bytes ∨
      mark.authority = address ∨
        ∃ found, device store address = .ok found ∧ mark.authority = found.owner := by
  -- A write under another key leaves the entry alone.
  have elsewhere : ∀ {other : Address} {value : Device} {before : Store}, address ≠ other →
      (before.put (.device other) value).get? (StoreKey.device address).bytes =
        before.get? (StoreKey.device address).bytes := by
    intro other value before different
    apply Store.get?_put_of_ne
    simpa using different
  cases step with
  | @register other owner name absent named owned =>
    by_cases here : address = other
    · exact Or.inr (Or.inl here.symm)
    · exact Or.inl (elsewhere here)
  | @handOver other owner found present named owned =>
    by_cases here : address = other
    · subst here
      exact Or.inr (Or.inr ⟨found, present, rfl⟩)
    · exact Or.inl (elsewhere here)
  | @editChannels other found update present named =>
    by_cases here : address = other
    · subst here
      exact Or.inr (Or.inr ⟨found, present, rfl⟩)
    · exact Or.inl (elsewhere here)
  | extend =>
    left
    apply Store.get?_put_of_ne
    simp
  | @openBucket other channelId channel reading found present listed unknown named channelNamed =>
    by_cases here : address = other
    · exact Or.inr (Or.inl here.symm)
    · left
      rw [elsewhere here]
      apply Store.get?_put_of_ne
      simp

/-- A device that is written over another one takes nothing from any other device. -/
theorem device_of_put_device {address other : Address} {found current next : Device}
    (present : device store address = .ok found) (currentPresent : device store other = .ok current)
    (owned : next.owner.isEmpty = false) :
    ∃ later, device (store.put (.device other) next) address = .ok later ∧
      (later.owner = found.owner ∧ later.channels = found.channels ∨
        current.owner = found.owner) := by
  rw [device_put_device store owned]
  split
  · rename_i here
    subst here
    cases present.symm.trans currentPresent
    exact ⟨next, rfl, Or.inr rfl⟩
  · exact ⟨found, present, Or.inl ⟨rfl, rfl⟩⟩

/-- A registered device stays registered, and only its owner answers for its owner and channels. -/
theorem device_edited (step : Step store mark after) {address : Address} {found : Device}
    (present : device store address = .ok found) :
    ∃ next, device after address = .ok next ∧
      (next.owner = found.owner ∧ next.channels = found.channels ∨
        mark.authority = found.owner) := by
  cases step with
  | @register other owner name absent named owned =>
    rw [device_put_device store (by exact owned)]
    split
    · rename_i here
      subst here
      rw [present] at absent
      contradiction
    · exact ⟨found, present, Or.inl ⟨rfl, rfl⟩⟩
  | handOver currentPresent named owned =>
    exact device_of_put_device present currentPresent owned
  | editChannels update currentPresent named =>
    have owned := owner_of_device currentPresent
    exact device_of_put_device present currentPresent (by exact owned)
  | extend currentPresent listed stored fresh checked =>
    exact ⟨found, by rw [device_put_bucket, present], Or.inl ⟨rfl, rfl⟩⟩
  | openBucket currentPresent listed unknown named channelNamed =>
    rcases keeps_of_reading (.openBucket currentPresent listed unknown named channelNamed) present
      with ⟨next, there, same⟩
    exact ⟨next, there, Or.inl same⟩

theorem bucket_touched (step : Step store mark after) (sound : Sound store)
    {occur : Set Coordinates} (noCollision : occur.InjOn Coordinates.hash)
    (stored : storedCoordinates store ⊆ occur)
    (named : ∀ coordinates, mark = .reading coordinates → coordinates ∈ occur)
    (hash : BucketHash) :
    after.get? (StoreKey.bucket hash).bytes = store.get? (StoreKey.bucket hash).bytes ∨
      ∃ coordinates, mark = .reading coordinates ∧
        (∀ known, bucket store hash = .ok known → known.coordinates = coordinates) ∧
        ∀ written, bucket after hash = .ok written → written.coordinates = coordinates := by
  cases step with
  | register => exact Or.inl (Store.get?_put_of_ne _ _ (by simp))
  | handOver => exact Or.inl (Store.get?_put_of_ne _ _ (by simp))
  | editChannels => exact Or.inl (Store.get?_put_of_ne _ _ (by simp))
  | @extend address channelId channel reading found known present listed stands fresh checked =>
    have there := coordinates_of_bucket noCollision sound stored (named _ rfl) stands
    have place : known.hash = .ofDay address channel reading.instant := by
      rw [← known.hash_coordinates, there, Coordinates.hash_of]
    by_cases here : hash = known.hash
    · right
      subst here
      refine ⟨_, rfl, ?_, ?_⟩
      · intro other standsToo
        rw [place, stands] at standsToo
        cases standsToo
        exact there
      · intro written standsAfter
        rw [bucket_put_bucket, if_pos rfl] at standsAfter
        cases standsAfter
        exact there
    · exact Or.inl (Store.get?_put_of_ne _ _ (by simpa using here))
  | @openBucket address channelId channel reading found present listed unknown _ channelNamed =>
    by_cases here : hash = .ofDay address channel reading.instant
    · right
      subst here
      refine ⟨_, rfl, ?_, ?_⟩
      · intro other stands
        rw [unknown] at stands
        contradiction
      · intro written standsAfter
        rw [bucket_put_device, bucket_put_bucket, if_pos rfl] at standsAfter
        cases standsAfter
        rfl
    · left
      rw [Store.get?_put_of_ne _ _ (by simp), Store.get?_put_of_ne _ _ (by simpa using here)]

end Step

end DeviceRegistry.Registry
