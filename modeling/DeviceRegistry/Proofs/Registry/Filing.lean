import Mathlib
import DeviceRegistry.Proofs.Registry.Coverage
import DeviceRegistry.Proofs.Registry.Recorded
/-!
# Filing one reading at any instant

A reading may be appended at an instant that is not its own, before the epoch or at the end
of time. The instant decides on the day, and the timestamp of the reading only on whether
it is a duplicate.

What becomes of the reading is told here by the answers alone: what was answered for its
channel on that day before, what is answered now for any instant of the day, and that every
other answer is the old one. The bucket is written back under the hash of its own fields, and
its own instant need not be the one that was asked for. Still it returns to its place, since
both instants lie on one day.

For other answers to stay, their coordinates must not share the hash of the one bucket that
is written. No more than that is assumed of hashes, and nothing at all for the reading itself.
-/

namespace DeviceRegistry

namespace Registry

/-! ## What is answered for a channel -/

/-- The coordinates at which the readings of a channel are looked up. -/
def askedCoordinates (store : Store) (address : Address) (channelId : String) (instant : Int64) :
    Set Coordinates :=
  {coordinates | ∃ channel, Registry.channel store address channelId = .ok channel ∧
    coordinates = .of address channel instant}

variable {store after : Store} {address other : Address} {channelId otherId : String}
  {channel : Channel} {instant otherInstant : Int64} {reading : Reading}

theorem id_of_channel (listed : Registry.channel store address channelId = .ok channel) :
    channel.id = channelId := by
  rcases channel_eq_ok.mp listed with ⟨found, present, has⟩
  exact Device.id_of_channel? has

theorem channel_of_error {error : RegistryError} (missing : device store address = .error error)
    (channelId : String) : Registry.channel store address channelId = .error error := by
  simp only [Registry.channel, missing, bind, Except.bind]

theorem readings_of_channel (listed : Registry.channel store address channelId = .ok channel) :
    readings store address channelId instant =
      (bucket store (.ofDay address channel instant)).map Bucket.readings := by
  simp only [readings, listed, bind, Except.bind]
  cases bucket store (.ofDay address channel instant) <;> rfl

theorem readings_of_error {error : RegistryError}
    (missing : Registry.channel store address channelId = .error error) :
    readings store address channelId instant = .error error := by
  simp only [readings, missing, bind, Except.bind]

theorem readings_of_same_day (listed : Registry.channel store address channelId = .ok channel)
    (same : otherInstant.toInt / secondsPerDay = instant.toInt / secondsPerDay) :
    readings store address channelId otherInstant =
      (bucket store (.ofDay address channel instant)).map Bucket.readings := by
  rw [readings_of_channel listed, BucketHash.ofDay, dayNumber_eq_iff.mpr same, BucketHash.ofDay]

/-! ## What an arrival leaves alone -/

/-- A reading changes the channels of no device. -/
theorem Arrival.channel_eq (arrival : Arrival store address channelId instant reading after)
    (other : Address) (otherId : String) :
    Registry.channel after other otherId = Registry.channel store other otherId := by
  cases arrival with
  | nothing => rfl
  | extended => simp only [Registry.channel, device_put_bucket]
  | opened present listed unknown named channelNamed =>
    have owned := owner_of_device present
    simp only [Registry.channel]
    rw [device_put_device _ (by exact owned), device_put_bucket]
    by_cases here : other = address
    · subst here
      rw [if_pos rfl, present]
      rfl
    · rw [if_neg here]

/-- A reading changes no bucket but the one that it is looked up for. -/
theorem Arrival.bucket_eq (covered : Covered store)
    (arrival : Arrival store address channelId instant reading after) {hash : BucketHash}
    (elsewhere : ∀ channel, Registry.channel store address channelId = .ok channel →
      hash ≠ .ofDay address channel instant) :
    bucket after hash = bucket store hash := by
  cases arrival with
  | nothing => rfl
  | extended present listed stands fresh checked =>
    have different := elsewhere _ (channel_eq_ok.mpr ⟨_, present, listed⟩)
    rcases covered.consists.of_bucket stands with ⟨-, hashSame, -⟩
    rw [bucket_put_bucket, hashSame, if_neg different]
  | opened present listed unknown named channelNamed =>
    have different := elsewhere _ (channel_eq_ok.mpr ⟨_, present, listed⟩)
    rw [bucket_put_device, bucket_put_bucket, if_neg different]

/-- Where no hash is shared, a reading is seen on its own day of its own channel alone. -/
theorem Arrival.readings_eq (covered : Covered store)
    (arrival : Arrival store address channelId instant reading after)
    (different : ¬(other = address ∧ otherId = channelId ∧
      otherInstant.toInt / secondsPerDay = instant.toInt / secondsPerDay))
    (noCollision : (askedCoordinates store address channelId instant ∪
      askedCoordinates store other otherId otherInstant).InjOn Coordinates.hash) :
    readings after other otherId otherInstant = readings store other otherId otherInstant := by
  have sameChannel := arrival.channel_eq other otherId
  cases looked : Registry.channel store other otherId with
  | error error =>
    rw [looked] at sameChannel
    rw [readings_of_error sameChannel, readings_of_error looked]
  | ok otherChannel =>
    rw [looked] at sameChannel
    rw [readings_of_channel sameChannel, readings_of_channel looked]
    apply congrArg (Except.map Bucket.readings)
    apply arrival.bucket_eq covered
    intro channel listed sameHash
    apply different
    -- One hash means one device, one channel and one day.
    have sameCoordinates : Coordinates.of other otherChannel otherInstant =
        .of address channel instant := by
      apply noCollision
      · exact Or.inr ⟨otherChannel, looked, rfl⟩
      · exact Or.inl ⟨channel, listed, rfl⟩
      · exact sameHash
    simp only [Coordinates.of, Coordinates.mk.injEq] at sameCoordinates
    rcases sameCoordinates with ⟨sameDevice, rfl, sameDay⟩
    refine ⟨sameDevice, ?_, dayNumber_eq_iff.mp sameDay⟩
    exact (id_of_channel looked).symm.trans (id_of_channel listed)

/-! ## Main result -/

/-- What is answered once a reading was added to those of a day. -/
structure Extends (store : Store) (address : Address) (channelId : String) (instant : Int64)
    (reading : Reading) (log : List Reading) (opened : List BucketHash) (after : Store) :
    Prop where
  onItsDay : ∀ other : Int64, other.toInt / secondsPerDay = instant.toInt / secondsPerDay →
    readings after address channelId other = .ok (log ++ [reading])
  /-- Whatever is asked for another device, another channel or another day. -/
  elsewhere : ∀ (other : Address) (otherId : String) (otherInstant : Int64),
    ¬(other = address ∧ otherId = channelId ∧
      otherInstant.toInt / secondsPerDay = instant.toInt / secondsPerDay) →
    (askedCoordinates store address channelId instant ∪
      askedCoordinates store other otherId otherInstant).InjOn Coordinates.hash →
    readings after other otherId otherInstant = readings store other otherId otherInstant
  hashes : ∃ before, bucketHashes store address = .ok before ∧
    bucketHashes after address = .ok (before ++ opened)

/-- How a reading is filed, by what was answered for its channel on its day before. -/
inductive Filed (store : Store) (address : Address) (channelId : String) (channel : Channel)
    (instant : Int64) (reading : Reading) : Except RegistryError Appended × Store → Prop
  | duplicate {log : List Reading}
      (asked : readings store address channelId instant = .ok log)
      (known : reading.timestamp ∈ log.map Reading.timestamp) :
      Filed store address channelId channel instant reading (.ok .duplicate, store)
  | extended {log : List Reading} {after : Store}
      (asked : readings store address channelId instant = .ok log)
      (fresh : reading.timestamp ∉ log.map Reading.timestamp)
      (added : Extends store address channelId instant reading log [] after) :
      Filed store address channelId channel instant reading (.ok (.stored false), after)
  | opened {after : Store}
      (asked : readings store address channelId instant =
        .error (.bucketNotFound (.ofDay address channel instant)))
      (added : Extends store address channelId instant reading []
        [.ofDay address channel instant] after) :
      Filed store address channelId channel instant reading (.ok (.stored true), after)

theorem filed_of_known (covered : Covered store)
    (listed : Registry.channel store address channelId = .ok channel) {known : Bucket}
    (stands : bucket store (.ofDay address channel instant) = .ok known) :
    Filed store address channelId channel instant reading
      ((append address channelId instant reading).on store) := by
  rcases channel_eq_ok.mp listed with ⟨found, present, has⟩
  have asked : readings store address channelId instant = .ok known.readings := by
    rw [readings_of_channel listed, stands]
    rfl
  cases fresh : known.contains reading.timestamp with
  | true =>
    rw [on_append_of_contains listed stands fresh]
    exact .duplicate asked (Bucket.contains_eq_true.mp fresh)
  | false =>
    rcases covered.consists.of_bucket stands with ⟨-, hashSame, checked, -⟩
    have arrival : Arrival store address channelId instant reading
        (store.put (.bucket known.hash) (known.push reading)) :=
      .extended present has stands fresh checked
    have listedAfter := (arrival.channel_eq address channelId).trans listed
    rw [on_append_of_known listed stands fresh, checked]
    apply Filed.extended asked (Bucket.contains_eq_false.mp fresh)
    constructor
    · intro other same
      rw [readings_of_same_day listedAfter same, hashSame, bucket_put_bucket, if_pos rfl]
      rfl
    · intro other otherId otherInstant different noCollision
      exact arrival.readings_eq covered different noCollision
    · refine ⟨found.buckets, ?_, ?_⟩
      · rw [bucketHashes, present]
        rfl
      · rw [bucketHashes, device_put_bucket, present, List.append_nil]
        rfl

theorem filed_of_unknown (covered : Covered store)
    (listed : Registry.channel store address channelId = .ok channel)
    (channelNamed : channelId ≠ "")
    (unknown : bucket store (.ofDay address channel instant) =
      .error (.bucketNotFound (.ofDay address channel instant))) :
    Filed store address channelId channel instant reading
      ((append address channelId instant reading).on store) := by
  rcases channel_eq_ok.mp listed with ⟨found, present, has⟩
  rcases covered.consists.of_device present with ⟨-, -, addressNamed, -⟩
  have owned := owner_of_device present
  have asked : readings store address channelId instant =
      .error (.bucketNotFound (.ofDay address channel instant)) := by
    rw [readings_of_channel listed, unknown]
    rfl
  have idNamed : channel.id.isEmpty = false := by
    simpa [id_of_channel listed] using channelNamed
  have arrival : Arrival store address channelId instant reading _ :=
    .opened present has unknown addressNamed idNamed
  have listedAfter := (arrival.channel_eq address channelId).trans listed
  have checked : checkBucket (.new address channel instant) = .ok () :=
    checkBucket_eq_ok.mpr ⟨addressNamed, idNamed⟩
  rw [on_append_of_unknown present has (bucket?_eq_ok_none.mpr unknown), checked]
  apply Filed.opened asked
  constructor
  · intro other same
    rw [readings_of_same_day listedAfter same, bucket_put_device, bucket_put_bucket, if_pos rfl]
    rfl
  · intro other otherId otherInstant different noCollision
    exact arrival.readings_eq covered different noCollision
  · refine ⟨found.buckets, ?_, ?_⟩
    · rw [bucketHashes, present]
      rfl
    · rw [bucketHashes, device_put_device_self _ (by exact owned)]
      rfl

/-- In every registry a reading is filed by what is answered for its channel on its day. -/
theorem filed_of_reached (reached : Reached store)
    (listed : Registry.channel store address channelId = .ok channel)
    (channelNamed : channelId ≠ "") (instant : Int64) (reading : Reading) :
    Filed store address channelId channel instant reading
      ((append address channelId instant reading).on store) := by
  have covered := reached.covered
  rcases covered.consists.bucket_cases (.ofDay address channel instant) with
    ⟨known, stands, -⟩ | ⟨unknown, -⟩
  · exact filed_of_known covered listed stands
  · exact filed_of_unknown covered listed channelNamed unknown

/-- A device with two channels of one id, the first of which was read before the epoch. -/
def beforeEpoch : Store :=
  [.handle (.setOwner ⟨⟨[1]⟩, ⟨[1]⟩, ⟨[2]⟩, ""⟩),
    .call (.addChannel ⟨[1]⟩ ⟨"a", "temperature"⟩) rfl,
    .call (.addChannel ⟨[1]⟩ ⟨"a", "humidity"⟩) rfl,
    .call (.append ⟨[1]⟩ "a" (-1) ⟨5, ⟨0⟩, ""⟩) rfl].foldl Request.after .empty

/-- The last day before the epoch gets a reading of a later day, asked for by its first second. -/
theorem filed_beforeEpoch :
    Registry.channel beforeEpoch ⟨[1]⟩ "a" = .ok ⟨"a", "temperature"⟩ ∧
      readings beforeEpoch ⟨[1]⟩ "a" (-86400) = .ok [⟨5, ⟨0⟩, ""⟩] ∧
      Filed beforeEpoch ⟨[1]⟩ "a" ⟨"a", "temperature"⟩ (-86400) ⟨86400, ⟨1⟩, ""⟩
        ((append ⟨[1]⟩ "a" (-86400) ⟨86400, ⟨1⟩, ""⟩).on beforeEpoch) := by
  have listed : Registry.channel beforeEpoch ⟨[1]⟩ "a" = .ok ⟨"a", "temperature"⟩ := by
    decide +kernel
  refine ⟨listed, by decide +kernel, ?_⟩
  exact filed_of_reached (Reached.empty.foldl _) listed (by decide) (-86400) ⟨86400, ⟨1⟩, ""⟩

end Registry

end DeviceRegistry
