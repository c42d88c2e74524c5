import Mathlib
import DeviceRegistry.Proofs.Registry.Sound
import DeviceRegistry.Proofs.Registry.Success
/-!
# What becomes of a reading

In a store of devices and buckets and for a registered device, there are five things that can
become of a reading of a message. Only one of them is a failure: the reading names a channel
with an empty id that the device has, and there is no bucket that it could go to. A bucket that
is stored already has a channel with an id, whatever reading it is looked up for.
-/

namespace DeviceRegistry.Registry

/-- What a reading of a message leads to, and the store after it. -/
inductive Received (store : Store) (address : Address) (found : Device) (tally : Tally)
    (new : NewReading) : Except RegistryError Tally × Store → Prop
  | skipped (missing : found.channel? new.channelId = none) :
      Received store address found tally new
        (.ok { tally with skipped := tally.skipped + 1 }, store)
  | duplicate {channel : Channel} {known : Bucket}
      (listed : found.channel? new.channelId = some channel)
      (stored : bucket store (.ofDay address channel new.reading.instant) = .ok known)
      (contained : known.contains new.timestamp = true) :
      Received store address found tally new
        (.ok { tally with duplicates := tally.duplicates + 1 }, store)
  | extended {channel : Channel} {known : Bucket}
      (listed : found.channel? new.channelId = some channel)
      (stored : bucket store (.ofDay address channel new.reading.instant) = .ok known)
      (fresh : known.contains new.timestamp = false) :
      Received store address found tally new
        (.ok { tally with accepted := tally.accepted + 1 },
          store.put (.bucket known.hash) (known.push new.reading))
  | opened {channel : Channel}
      (listed : found.channel? new.channelId = some channel)
      (unknown : bucket store (.ofDay address channel new.reading.instant) =
        .error (.bucketNotFound (.ofDay address channel new.reading.instant)))
      (channelNamed : channel.id ≠ "") :
      Received store address found tally new
        (.ok { tally with accepted := tally.accepted + 1 },
          (store.put (.bucket (.ofDay address channel new.reading.instant))
              ((Bucket.new address channel new.reading.instant).push new.reading)).put
            (.device address)
            (placed address
              { found with
                buckets := found.buckets ++ [.ofDay address channel new.reading.instant] }))
  | refused {channel : Channel}
      (listed : found.channel? new.channelId = some channel)
      (unknown : bucket store (.ofDay address channel new.reading.instant) =
        .error (.bucketNotFound (.ofDay address channel new.reading.instant)))
      (unnamed : channel.id = "") :
      Received store address found tally new (.error (.invalidBucket (.noChannelId address)), store)

variable {store after : Store} {address : Address} {found : Device} {tally next : Tally}
  {new : NewReading}

theorem received_appendCounted {deviceLaw : Device → Prop} {bucketLaw : Bucket → Prop}
    (consists : Consists deviceLaw bucketLaw store) (present : device store address = .ok found)
    (tally : Tally) (new : NewReading) :
    Received store address found tally new ((appendCounted address tally new).on store) := by
  rcases consists.of_device present with ⟨-, -, addressNamed, -⟩
  rcases listed : found.channel? new.channelId with _ | channel
  · rw [on_appendCounted_of_missing present listed]
    exact .skipped listed
  · rw [on_appendCounted, appendOnItsDay]
    have looked := channel_eq_ok.mpr ⟨found, present, listed⟩
    rcases consists.bucket_cases (.ofDay address channel new.reading.instant) with
      ⟨known, stored, -, -, checked, -⟩ | ⟨unknown, -⟩
    · cases contained : known.contains new.reading.timestamp with
      | true =>
        rw [on_append_of_contains looked stored contained]
        exact .duplicate listed stored contained
      | false =>
        rw [on_append_of_known looked stored contained, checked]
        exact .extended listed stored contained
    · rw [on_append_of_unknown present listed (bucket?_eq_ok_none.mpr unknown),
        checkBucket_new addressNamed]
      by_cases unnamed : channel.id = ""
      · rw [if_pos unnamed]
        exact .refused listed unknown unnamed
      · rw [if_neg unnamed]
        exact .opened listed unknown unnamed

/-- A device is registered and has these channels. -/
def Offers (store : Store) (address : Address) (channels : List Channel) : Prop :=
  ∃ found, device store address = .ok found ∧ found.channels = channels

/-- The channels of every device stay as they are, for the next reading to find. -/
theorem Offers.appendCounted {other : Address} {channels : List Channel}
    (offers : Offers store other channels) (address : Address) (tally : Tally)
    (new : NewReading) :
    Offers ((appendCounted address tally new).on store).2 other channels := by
  rcases offers with ⟨found, present, rfl⟩
  rw [after_appendCounted]
  rcases after_appendOnItsDay store address new.channelId new.reading with
    unchanged | ⟨home, channel, -, -, step⟩
  · rw [unchanged]
    exact ⟨found, present, rfl⟩
  · rcases step.keeps_of_reading present with ⟨later, presentLater, -, sameChannels⟩
    exact ⟨later, presentLater, sameChannels⟩

/-! ## Counting readings -/

theorem total_appendCounted
    (succeeds : (appendCounted address tally new).on store = (.ok next, after)) :
    next.accepted + next.duplicates + next.skipped =
      tally.accepted + tally.duplicates + tally.skipped + 1 := by
  rw [on_appendCounted] at succeeds
  split at succeeds <;> cases succeeds <;> grind

/-- A loop that has run through has counted every reading once. -/
theorem total_readings {readings : List NewReading}
    (succeeds : (readings.foldlM (appendCounted address) ⟨0, 0, 0⟩).on store =
      (.ok tally, after)) :
    tally.accepted + tally.duplicates + tally.skipped = readings.length := by
  apply Operation.foldlM_of_ok
    (fun done tally _ => tally.accepted + tally.duplicates + tally.skipped = done.length) _ rfl
    succeeds
  intro done new _ tally next before after counted one
  rw [total_appendCounted one, counted, List.length_append]
  rfl

end DeviceRegistry.Registry
