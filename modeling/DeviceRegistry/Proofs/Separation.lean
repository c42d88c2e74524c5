import Mathlib
import DeviceRegistry.Bucket
import DeviceRegistry.Bytes.Lemmas
import DeviceRegistry.Proofs.Utf8
/-!
# What bucket hashes tell apart

The message that is hashed for a bucket determines its device, the texts of its channel and
its day. The texts have any length and may hold anything, also bytes that look like a length.
What tells their ends is that a length stands before each of them, in a width of its own: the
first eight bytes give the length of what follows, so two messages that agree have the same
first text, and the same rest to go on with.

Eight bytes hold every length below 2 ^ 64. A longer text would be written with a shorter
length, and then other texts could make up for the difference.

The hash itself is short. Whether it tells messages apart is a property of the digest, and
nothing is assumed about it here.
-/

namespace DeviceRegistry

open Text

/-! ## Days -/

theorem toInt_dayNumber (instant : Int64) :
    (dayNumber instant).toInt = instant.toInt / secondsPerDay := by
  have lower := Int64.le_toInt instant
  have upper := Int64.toInt_lt instant
  rw [dayNumber, secondsPerDay, Int64.toInt_ofInt_of_le] <;> omega

theorem dayNumber_eq_iff {instant other : Int64} :
    dayNumber instant = dayNumber other ↔
      instant.toInt / secondsPerDay = other.toInt / secondsPerDay := by
  rw [← Int64.toInt_inj, toInt_dayNumber, toInt_dayNumber]

/-- An instant lies within its day, before the epoch and at both ends of time as well. -/
theorem within_dayNumber (instant : Int64) :
    86400 * (dayNumber instant).toInt ≤ instant.toInt ∧
      instant.toInt < 86400 * ((dayNumber instant).toInt + 1) := by
  rw [toInt_dayNumber, secondsPerDay]
  omega

/-- The number of a day is the quotient, rounded down. -/
theorem floor_div_secondsPerDay (instant : Int64) :
    ⌊(instant.toInt : ℚ) / 86400⌋ = instant.toInt / secondsPerDay :=
  Rat.floor_intCast_div_natCast instant.toInt 86400

namespace BucketHash

/-! ## Messages -/

/-- Whether the length of a byte string can be written in front of it. -/
def Measured (bytes : Bytes) : Prop :=
  bytes.length < 2 ^ 64
deriving Decidable

/-- The end of a text is told by its length, whatever comes after it. -/
theorem delimited_append_inj {bytes other tail otherTail : Bytes} (measured : Measured bytes)
    (otherMeasured : Measured other)
    (same : delimited bytes ++ tail = delimited other ++ otherTail) :
    bytes = other ∧ tail = otherTail := by
  simp only [delimited, List.append_assoc] at same
  have widths : (Bytes.bigEndian 8 bytes.length).length =
      (Bytes.bigEndian 8 other.length).length := by
    rw [Bytes.length_bigEndian, Bytes.length_bigEndian]
  rcases List.append_inj same widths with ⟨sameWidth, sameRest⟩
  have lengths : bytes.length = other.length :=
    (Bytes.bigEndian_inj measured otherMeasured).mp sameWidth
  exact List.append_inj sameRest lengths

theorem bigEndian_day_inj {day otherDay : Int64} :
    Bytes.bigEndian 8 day.toUInt64.toNat = Bytes.bigEndian 8 otherDay.toUInt64.toNat ↔
      day = otherDay := by
  rw [Bytes.bigEndian_inj day.toUInt64.toNat_lt otherDay.toUInt64.toNat_lt, UInt64.toNat_inj]
  exact ⟨congrArg Int64.ofUInt64, congrArg Int64.toUInt64⟩

/-- The lengths of all texts that are hashed for a bucket can be written. -/
structure Hashable (device : Address) (channel : Channel) : Prop where
  device : Measured device.bytes
  id : Measured (Utf8.encode channel.id)
  quantity : Measured (Utf8.encode channel.quantity)

variable {device other : Address} {channel otherChannel : Channel} {day otherDay : Int64}
  {instant otherInstant : Int64}

theorem preimage_eq_iff (hashable : Hashable device channel)
    (otherHashable : Hashable other otherChannel) :
    preimage device channel day = preimage other otherChannel otherDay ↔
      device = other ∧ channel = otherChannel ∧ day = otherDay := by
  constructor
  · intro same
    simp only [preimage, List.append_assoc] at same
    have fields := List.append_cancel_left same
    rcases delimited_append_inj hashable.device otherHashable.device fields with
      ⟨sameDevice, texts⟩
    rcases delimited_append_inj hashable.id otherHashable.id texts with ⟨sameId, rest⟩
    rcases delimited_append_inj hashable.quantity otherHashable.quantity rest with
      ⟨sameQuantity, sameDay⟩
    refine ⟨?_, ?_, bigEndian_day_inj.mp sameDay⟩
    · cases device
      cases other
      exact congrArg Address.mk sameDevice
    · cases channel
      cases otherChannel
      exact congrArg₂ Channel.mk (Utf8.encode_injective sameId)
        (Utf8.encode_injective sameQuantity)
  · rintro ⟨rfl, rfl, rfl⟩
    rfl

/-- Device, channel and day are the same for both. -/
structure SameBucket (device other : Address) (channel otherChannel : Channel)
    (instant otherInstant : Int64) : Prop where
  device : device = other
  id : channel.id = otherChannel.id
  quantity : channel.quantity = otherChannel.quantity
  day : ⌊(instant.toInt : ℚ) / 86400⌋ = ⌊(otherInstant.toInt : ℚ) / 86400⌋

theorem sameBucket_iff :
    SameBucket device other channel otherChannel instant otherInstant ↔
      device = other ∧ channel = otherChannel ∧ dayNumber instant = dayNumber otherInstant := by
  rw [dayNumber_eq_iff, ← floor_div_secondsPerDay, ← floor_div_secondsPerDay]
  constructor
  · rintro ⟨sameDevice, sameId, sameQuantity, sameDay⟩
    cases channel
    cases otherChannel
    exact ⟨sameDevice, congrArg₂ Channel.mk sameId sameQuantity, sameDay⟩
  · rintro ⟨sameDevice, rfl, sameDay⟩
    exact ⟨sameDevice, rfl, rfl, sameDay⟩

/-! ## Hashes -/

/-- Two messages that the cut digest does not tell apart. -/
def Collide (message other : Bytes) : Prop :=
  message ≠ other ∧ (Sha256.digest message).take 16 = (Sha256.digest other).take 16

theorem ofMessage_eq_iff {message other : Bytes} :
    ofMessage message = ofMessage other ↔ message = other ∨ Collide message other := by
  have bytes : ofMessage message = ofMessage other ↔
      (Sha256.digest message).take 16 = (Sha256.digest other).take 16 :=
    BucketHash.ext_iff
  rw [bytes, Collide]
  by_cases same : message = other
  · simp [same]
  · simp [same]

/-- Each device, channel and day has a message of its own, and a hash unless two collide. -/
theorem separates (hashable : Hashable device channel)
    (otherHashable : Hashable other otherChannel) :
    (∀ instant : Int64, 86400 * (dayNumber instant).toInt ≤ instant.toInt ∧
      instant.toInt < 86400 * ((dayNumber instant).toInt + 1)) ∧
    (preimage device channel (dayNumber instant) =
        preimage other otherChannel (dayNumber otherInstant) ↔
      SameBucket device other channel otherChannel instant otherInstant) ∧
    (ofDay device channel instant = ofDay other otherChannel otherInstant ↔
      SameBucket device other channel otherChannel instant otherInstant ∨
        Collide (preimage device channel (dayNumber instant))
          (preimage other otherChannel (dayNumber otherInstant))) := by
  have messages : preimage device channel (dayNumber instant) =
        preimage other otherChannel (dayNumber otherInstant) ↔
      SameBucket device other channel otherChannel instant otherInstant := by
    rw [preimage_eq_iff hashable otherHashable, sameBucket_iff]
  refine ⟨within_dayNumber, messages, ?_⟩
  rw [← messages]
  exact ofMessage_eq_iff

/-- A channel whose id goes on like the length and the text of a quantity. -/
def lookalike : Channel :=
  ⟨"a\x00\x00\x00\x00\x00\x00\x00\x01b", ""⟩

theorem separates_lookalike :
    Hashable ⟨[1]⟩ lookalike ∧ Hashable ⟨[1]⟩ ⟨"a", "b"⟩ ∧
    preimage ⟨[1]⟩ lookalike (dayNumber (-1)) ≠ preimage ⟨[1]⟩ ⟨"a", "b"⟩ (dayNumber 0) ∧
    (ofDay ⟨[1]⟩ lookalike (-1) = ofDay ⟨[1]⟩ ⟨"a", "b"⟩ 0 ↔
      Collide (preimage ⟨[1]⟩ lookalike (dayNumber (-1)))
        (preimage ⟨[1]⟩ ⟨"a", "b"⟩ (dayNumber 0))) := by
  have hashable : Hashable ⟨[1]⟩ lookalike := ⟨by decide, by decide, by decide⟩
  have otherHashable : Hashable ⟨[1]⟩ ⟨"a", "b"⟩ := ⟨by decide, by decide, by decide⟩
  rcases @separates _ _ _ _ (-1) 0 hashable otherHashable with ⟨-, messages, hashes⟩
  have different : lookalike.id ≠ "a" := by decide
  refine ⟨hashable, otherHashable, ?_, ?_⟩
  · intro same
    exact different (messages.mp same).id
  · rw [hashes]
    apply or_iff_right
    intro same
    exact different same.id

end BucketHash

end DeviceRegistry
