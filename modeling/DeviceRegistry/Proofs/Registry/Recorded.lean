import Mathlib
import DeviceRegistry.Proofs.Registry.Occurrence
import DeviceRegistry.Proofs.Registry.Roster
import DeviceRegistry.Proofs.Registry.Sound
import DeviceRegistry.Proofs.Separation
/-!
# The readings that a store holds

The log of a channel on a day is read off the bucket that has their coordinates. It is
asked for at the hash of the coordinates, where some other bucket may stand in its
place; that one does not count.

A bucket that is written changes the log at its own coordinates and at no others, so
long as it takes no other bucket's place.
-/

namespace DeviceRegistry

/-! ## Days -/

theorem Reading.toInt_instant_div (reading : Reading) :
    reading.instant.toInt / secondsPerDay = reading.day := by
  have bound := reading.timestamp.toNat_lt
  rw [Reading.instant, Int64.toInt_ofNat_of_lt (by omega)]
  rfl

namespace Bucket

/-- The number of the day of a bucket. -/
def day (bucket : Bucket) : Int :=
  bucket.instant.toInt / secondsPerDay

theorem toInt_day_coordinates (bucket : Bucket) : bucket.coordinates.day.toInt = bucket.day :=
  toInt_dayNumber bucket.instant

/-- A bucket that is the log of a channel on a day. -/
def Holds (bucket : Bucket) (address : Address) (channel : Channel) (day : Int) : Prop :=
  bucket.device = address ∧ bucket.channel = channel ∧ bucket.day = day
deriving Decidable

variable {bucket : Bucket} {address : Address} {channel : Channel} {day : Int}

theorem Holds.coordinates (holds : bucket.Holds address channel day) :
    bucket.coordinates = ⟨address, channel, Int64.ofInt day⟩ := by
  rcases holds with ⟨rfl, rfl, rfl⟩
  rfl

/-- A bucket for an instant is the log of its day and no other one. -/
theorem holds_iff_of_coordinates {instant : Int64}
    (there : bucket.coordinates = .of address channel instant) {other : Address}
    {otherChannel : Channel} :
    bucket.Holds other otherChannel day ↔
      other = address ∧ otherChannel = channel ∧ day = instant.toInt / secondsPerDay := by
  have sameDay : bucket.day = instant.toInt / secondsPerDay := by
    rw [← bucket.toInt_day_coordinates, there]
    exact toInt_dayNumber instant
  obtain ⟨rfl, rfl⟩ : bucket.device = address ∧ bucket.channel = channel :=
    ⟨congrArg Coordinates.device there, congrArg Coordinates.channel there⟩
  rw [Holds, sameDay, @eq_comm _ _ other, @eq_comm _ _ otherChannel, @eq_comm _ _ day]

end Bucket

/-! ## Logs -/

namespace Registry

/-- The readings of a channel on a day. -/
def recorded (store : Store) (address : Address) (channel : Channel) (day : Int) :
    List Reading :=
  match bucket store (Coordinates.mk address channel (Int64.ofInt day)).hash with
  | .ok stored => if stored.Holds address channel day then stored.readings else []
  | .error _ => []

variable {store after : Store} {address : Address} {channel : Channel} {day : Int}

theorem recorded_congr (same : ∀ hash, bucket after hash = bucket store hash) :
    recorded after = recorded store := by
  funext address channel day
  simp only [recorded, same]

theorem recorded_of_absent (sound : Sound store)
    (absent : device store address = .error (.deviceNotFound address)) :
    recorded store address channel day = [] := by
  rw [recorded]
  split
  · rename_i stored stands
    split
    · rename_i holds
      rcases sound.housed stands with ⟨home, present⟩
      rw [holds.1, absent] at present
      contradiction
    · rfl
  · rfl

/-- A bucket that is written in the place of none but its own changes one log. -/
theorem recorded_put_bucket {written : Bucket}
    (own : ∀ known, bucket store written.hash = .ok known →
      known.coordinates = written.coordinates) :
    recorded (store.put (.bucket written.hash) written) address channel day =
      if written.Holds address channel day then written.readings
      else recorded store address channel day := by
  simp only [recorded, bucket_put_bucket]
  by_cases holds : written.Holds address channel day
  · have place : (Coordinates.mk address channel (Int64.ofInt day)).hash = written.hash := by
      rw [← holds.coordinates, Bucket.hash_coordinates]
    simp only [place, if_true, holds]
  · by_cases place : (Coordinates.mk address channel (Int64.ofInt day)).hash = written.hash
    · simp only [place, if_true, holds, if_false]
      split
      · rename_i known stands
        -- The bucket before had the coordinates of the one that is written.
        have same := own known stands
        have elsewhere : ¬known.Holds address channel day := by
          rintro ⟨sameDevice, sameChannel, sameDay⟩
          refine holds ⟨?_, ?_, ?_⟩
          · rw [← sameDevice]
            exact (congrArg Coordinates.device same).symm
          · rw [← sameChannel]
            exact (congrArg Coordinates.channel same).symm
          · rw [← sameDay, ← known.toInt_day_coordinates, same, written.toInt_day_coordinates]
        rw [if_neg elsewhere]
      · rfl
    · simp only [place, if_false, holds]

/-- Where no hash is shared, the bucket of a reading is the one that was opened for it. -/
theorem coordinates_of_bucket {occur : Set Coordinates} (noCollision : occur.InjOn Coordinates.hash)
    (sound : Sound store) (stored : storedCoordinates store ⊆ occur) {coordinates : Coordinates}
    (named : coordinates ∈ occur) {known : Bucket}
    (stands : bucket store coordinates.hash = .ok known) : known.coordinates = coordinates := by
  rcases sound.consists.of_bucket stands with ⟨-, hashSame, -⟩
  exact noCollision (stored ⟨_, known, stands, rfl⟩) named (known.hash_coordinates.trans hashSame)

/-- The bucket of an instant is the log of its channel on that day. -/
theorem recorded_of_bucket {instant : Int64} {known : Bucket}
    (stands : bucket store (.ofDay address channel instant) = .ok known)
    (there : known.coordinates = .of address channel instant) :
    recorded store address channel (instant.toInt / secondsPerDay) = known.readings := by
  have holds := (Bucket.holds_iff_of_coordinates there).mpr ⟨rfl, rfl, rfl⟩
  rw [← Coordinates.hash_of] at stands
  rw [recorded, ← dayNumber, ← Coordinates.of, stands]
  exact if_pos holds

theorem recorded_of_no_bucket {instant : Int64} {error : RegistryError}
    (missing : bucket store (.ofDay address channel instant) = .error error) :
    recorded store address channel (instant.toInt / secondsPerDay) = [] := by
  rw [← Coordinates.hash_of] at missing
  rw [recorded, ← dayNumber, ← Coordinates.of, missing]

section Arrival

variable {reading : Reading} {other : Address} {otherChannel : Channel} {day : Int}

/-- A bucket that has one reading more than before adds it to its own log. -/
theorem recorded_put_reading (written : Bucket)
    (there : written.coordinates = .of address channel reading.instant)
    (own : ∀ known, bucket store written.hash = .ok known →
      known.coordinates = written.coordinates)
    (more : written.readings = recorded store address channel reading.day ++ [reading]) :
    recorded (store.put (.bucket written.hash) written) other otherChannel day =
      if other = address ∧ otherChannel = channel ∧ day = reading.day then
        recorded store other otherChannel day ++ [reading]
      else recorded store other otherChannel day := by
  rw [recorded_put_bucket own]
  simp only [Bucket.holds_iff_of_coordinates there, reading.toInt_instant_div]
  split
  · rename_i same
    rcases same with ⟨rfl, rfl, rfl⟩
    exact more
  · rfl

theorem recorded_extend {known : Bucket}
    (stands : bucket store (.ofDay address channel reading.instant) = .ok known)
    (there : known.coordinates = .of address channel reading.instant) :
    recorded (store.put (.bucket known.hash) (known.push reading)) other otherChannel day =
      if other = address ∧ otherChannel = channel ∧ day = reading.day then
        recorded store other otherChannel day ++ [reading]
      else recorded store other otherChannel day := by
  refine recorded_put_reading (known.push reading) there ?_ ?_
  · intro same standsToo
    rw [hash_push, ← known.hash_coordinates, there] at standsToo
    rw [Except.ok.inj (standsToo.symm.trans stands), Bucket.coordinates_push]
  · rw [← reading.toInt_instant_div, recorded_of_bucket stands there, Bucket.push]

theorem recorded_open {error : RegistryError}
    (missing : bucket store (.ofDay address channel reading.instant) = .error error) :
    recorded (store.put (.bucket (.ofDay address channel reading.instant))
        ((Bucket.new address channel reading.instant).push reading)) other otherChannel day =
      if other = address ∧ otherChannel = channel ∧ day = reading.day then
        recorded store other otherChannel day ++ [reading]
      else recorded store other otherChannel day := by
  refine recorded_put_reading ((Bucket.new address channel reading.instant).push reading) rfl ?_ ?_
  · intro known stands
    have none := stands.symm.trans missing
    contradiction
  · rw [← reading.toInt_instant_div, recorded_of_no_bucket missing]
    rfl

end Arrival

end Registry

end DeviceRegistry
