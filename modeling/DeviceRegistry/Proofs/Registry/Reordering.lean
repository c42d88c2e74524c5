import Mathlib
import DeviceRegistry.Proofs.Registry.Batches
import DeviceRegistry.Proofs.Registry.Locality
/-!
# Readings in another order

Two messages with the same readings in different orders are answered alike: both fail or both
are counted the same. Where they succeed, they have opened the same buckets and taken the same
slots, whichever reading has come first to a slot.

Here a hash must not be shared. A reading for a channel without a name is refused unless it
finds a bucket, and with a shared hash it might find one that an earlier reading has opened.
-/

namespace DeviceRegistry.Registry

variable {store after : Store} {address : Address} {found : Device}
  {first second readings : List NewReading} {tally : Tally}

/-! ## Failures -/

/-- A failing loop has come to a reading for a channel without a name. -/
theorem unnamed_of_readings_fail (covered : Covered store)
    (present : device store address = .ok found) {error : RegistryError}
    (fails : (readings.foldlM (appendCounted address) ⟨0, 0, 0⟩).on store = (.error error, after)) :
    error = .invalidBucket (.noChannelId address) ∧
      ∃ new ∈ readings, ∃ channel, found.channel? new.channelId = some channel ∧
        channel.id = "" := by
  rcases Operation.foldlM_of_error fails with
    ⟨done, new, rest, tally, middle, rfl, doneWell, failsHere⟩
  have absorbed := absorbed_of_readings covered present doneWell
  rcases absorbed.listed with ⟨later, -, presentLater, channels, -⟩
  have received := received_appendCounted absorbed.covered.consists presentLater tally new
  rw [failsHere] at received
  cases received with
  | @refused channel has unknown unnamed =>
    refine ⟨rfl, new, by simp, channel, ?_, unnamed⟩
    rw [Device.channel?, ← channels]
    exact has

theorem storedCoordinates_readings_subset (present : device store address = .ok found)
    (readings : List NewReading) :
    storedCoordinates ((readings.foldlM (appendCounted address) ⟨0, 0, 0⟩).on store).2 ⊆
      storedCoordinates store ∪ namedCoordinates store (.addReadings ⟨address, readings⟩) := by
  have steps := after_handleAddReadings store ⟨address, readings⟩
  have same : ((handleAddReadings ⟨address, readings⟩).on store).2 =
      ((readings.foldlM (appendCounted address) ⟨0, 0, 0⟩).on store).2 := by
    rw [on_handleAddReadings, device?_eq_ok_some.mpr present]
    simp only
    rcases (readings.foldlM (appendCounted address) ⟨0, 0, 0⟩).on store with ⟨_ | _, _⟩ <;> rfl
  rw [same] at steps
  exact fun _ stands => steps.stored_or_named stands

/-- Where no hash is shared, a loop runs through only if all of its channels have names. -/
theorem named_of_readings (covered : Covered store) (present : device store address = .ok found)
    (noCollision : (storedCoordinates store ∪
      namedCoordinates store (.addReadings ⟨address, readings⟩)).InjOn Coordinates.hash)
    (succeeds : (readings.foldlM (appendCounted address) ⟨0, 0, 0⟩).on store = (.ok tally, after))
    {new : NewReading} (member : new ∈ readings) {channel : Channel}
    (has : found.channel? new.channelId = some channel) : channel.id ≠ "" := by
  have absorbed := absorbed_of_readings covered present succeeds
  have sought : (BucketHash.ofDay address channel new.reading.instant, new.timestamp) ∈
      slots address found.channels readings :=
    List.mem_filterMap.mpr ⟨new, member, slot?_of_listed address has⟩
  rcases (absorbed.taken _).mpr (Or.inr sought) with ⟨stored, stands, -⟩
  rcases absorbed.covered.consists.of_bucket stands with ⟨-, hashSame, checked, -⟩
  have occurs := storedCoordinates_readings_subset present readings
  rw [succeeds] at occurs
  have there : stored.coordinates = .of address channel new.reading.instant := by
    apply noCollision
    · exact occurs ⟨_, stored, stands, rfl⟩
    · exact Or.inr ⟨found, channel, new, member, present, has, rfl⟩
    · exact stored.hash_coordinates.trans hashSame
  have sameChannel : stored.channel = channel := congrArg Coordinates.channel there
  intro unnamed
  have named := (checkBucket_eq_ok.mp checked).2
  rw [sameChannel, unnamed] at named
  contradiction

/-! ## Main result -/

/-- A device lists the same buckets in both stores, and these hold the same timestamps. -/
structure Reordered (address : Address) (one other : Store) : Prop where
  listed : ∃ found known, device one address = .ok found ∧ device other address = .ok known ∧
    found.buckets.Perm known.buckets
  standing : standing one = standing other
  taken : taken one = taken other

theorem Absorbed.reordered {sought again : List Slot} {other : Tally} {last : Store}
    (absorbed : Absorbed store address found sought tally after)
    (absorbedToo : Absorbed store address found again other last) (perm : sought.Perm again) :
    tally.accepted = other.accepted ∧ tally.duplicates = other.duplicates ∧
      Reordered address after last := by
  have sameNovel : novel store sought = novel store again := by
    ext slot
    rw [mem_novel, mem_novel, perm.mem_iff]
  have accepted : tally.accepted = other.accepted := by
    rw [absorbed.accepted, absorbedToo.accepted, sameNovel]
  have duplicates : tally.duplicates = other.duplicates := by
    have counted := absorbed.counted
    rw [perm.length_eq, ← absorbedToo.counted] at counted
    omega
  have sameStanding : Registry.standing after = Registry.standing last := by
    ext hash
    rw [absorbed.standing, absorbedToo.standing, (perm.map Prod.fst).mem_iff]
  refine ⟨accepted, duplicates, ?_, sameStanding, ?_⟩
  · rcases absorbed.listed with ⟨one, opened, present, -, buckets, distinct, mem_opened⟩
    rcases absorbedToo.listed with
      ⟨two, openedToo, presentToo, -, bucketsToo, distinctToo, mem_openedToo⟩
    refine ⟨one, two, present, presentToo, ?_⟩
    rw [buckets, bucketsToo]
    apply List.Perm.append_left
    rw [List.perm_ext_iff_of_nodup distinct distinctToo]
    intro hash
    rw [mem_opened, mem_openedToo, sameStanding]
  · ext slot
    rw [absorbed.taken, absorbedToo.taken, perm.mem_iff]

theorem namedCoordinates_of_perm (perm : first.Perm second) (store : Store) (address : Address) :
    namedCoordinates store (.addReadings ⟨address, first⟩) =
      namedCoordinates store (.addReadings ⟨address, second⟩) := by
  ext coordinates
  simp [namedCoordinates, perm.mem_iff]

/-- A loop that runs through does so in any other order, with the same counts. -/
theorem readings_of_perm (covered : Covered store) (present : device store address = .ok found)
    (perm : first.Perm second)
    (noCollision : (storedCoordinates store ∪
      namedCoordinates store (.addReadings ⟨address, first⟩)).InjOn Coordinates.hash)
    (succeeds : (first.foldlM (appendCounted address) ⟨0, 0, 0⟩).on store = (.ok tally, after)) :
    ∃ last, (second.foldlM (appendCounted address) ⟨0, 0, 0⟩).on store = (.ok tally, last) ∧
      Reordered address after last := by
  rcases outcome : (second.foldlM (appendCounted address) ⟨0, 0, 0⟩).on store with
    ⟨error | other, last⟩
  · rcases unnamed_of_readings_fail covered present outcome with
      ⟨-, new, member, channel, has, unnamed⟩
    have inFirst := perm.mem_iff.mpr member
    exact absurd unnamed (named_of_readings covered present noCollision succeeds inFirst has)
  · have absorbed := absorbed_of_readings covered present succeeds
    have absorbedToo := absorbed_of_readings covered present outcome
    have sameSlots : (slots address found.channels first).Perm
        (slots address found.channels second) := perm.filterMap _
    rcases absorbed.reordered absorbedToo sameSlots with ⟨accepted, duplicates, reordered⟩
    have total := total_readings succeeds
    have totalToo := total_readings outcome
    rw [perm.length_eq] at total
    have skipped : other.skipped = tally.skipped := by omega
    obtain rfl : other = tally := by
      cases other
      cases tally
      simp_all
    exact ⟨last, rfl, reordered⟩

/-- A loop that fails does so in any other order, with the same error. -/
theorem readings_fail_of_perm (covered : Covered store)
    (present : device store address = .ok found) (perm : first.Perm second)
    (noCollision : (storedCoordinates store ∪
      namedCoordinates store (.addReadings ⟨address, first⟩)).InjOn Coordinates.hash)
    {error : RegistryError}
    (fails : (first.foldlM (appendCounted address) ⟨0, 0, 0⟩).on store = (.error error, after)) :
    ∃ last, (second.foldlM (appendCounted address) ⟨0, 0, 0⟩).on store = (.error error, last) := by
  rcases outcome : (second.foldlM (appendCounted address) ⟨0, 0, 0⟩).on store with
    ⟨other | tally, last⟩
  · rcases unnamed_of_readings_fail covered present fails with ⟨rfl, -⟩
    rcases unnamed_of_readings_fail covered present outcome with ⟨rfl, -⟩
    exact ⟨last, rfl⟩
  · -- If the second order ran through, so would the first one.
    rw [namedCoordinates_of_perm perm] at noCollision
    rcases readings_of_perm covered present perm.symm noCollision outcome with
      ⟨_, succeeds, -⟩
    rw [fails] at succeeds
    cases succeeds

/-- Readings are answered and counted alike in every order, and they leave stores alike. -/
theorem reordered_of_perm (reached : Reached store) (perm : first.Perm second)
    (noCollision : (storedCoordinates store ∪
      namedCoordinates store (.addReadings ⟨address, first⟩)).InjOn Coordinates.hash) :
    ((handle (.addReadings ⟨address, first⟩)).on store).1 =
        ((handle (.addReadings ⟨address, second⟩)).on store).1 ∧
      ∀ event, ((handle (.addReadings ⟨address, first⟩)).on store).1 = .ok event →
        Reordered address ((handle (.addReadings ⟨address, first⟩)).on store).2
          ((handle (.addReadings ⟨address, second⟩)).on store).2 := by
  have covered := reached.covered
  have sameCheck : (Message.addReadings ⟨address, second⟩).check =
      (Message.addReadings ⟨address, first⟩).check := by
    simp only [Message.check, AddReadings.check, perm.isEmpty_eq]
  rw [on_handle, on_handle, sameCheck]
  rcases (Message.addReadings ⟨address, first⟩).check with error | ⟨⟩
  · simp
  · simp only [handleUnchecked]
    rw [on_handleAddReadings, on_handleAddReadings]
    rcases looked : device? store address with error | _ | found
    · simp
    · simp
    · have present := device?_eq_ok_some.mp looked
      rcases outcome : (first.foldlM (appendCounted address) ⟨0, 0, 0⟩).on store with
        ⟨error | tally, after⟩
      · rcases readings_fail_of_perm covered present perm noCollision outcome with
          ⟨last, outcomeToo⟩
        simp [outcomeToo]
      · rcases readings_of_perm covered present perm noCollision outcome with
          ⟨last, outcomeToo, reordered⟩
        simp only [outcomeToo]
        exact ⟨trivial, fun _ _ => reordered⟩

/-- A device with two channels that were never read. -/
def unread : Store :=
  [.handle (.setOwner ⟨⟨[1]⟩, ⟨[1]⟩, ⟨[2]⟩, ""⟩),
    .handle (.updateChannels
      ⟨⟨[2]⟩, ⟨[1]⟩, [.assign "a" "temperature", .assign "b" "force"]⟩)].foldl Request.after .empty

/-- Two readings for one slot, one for another slot, and one for no channel. -/
def mixed : List NewReading :=
  [.new "b" 7 ⟨0⟩, .new "z" 7 ⟨0⟩, .new "b" 7 ⟨1⟩, .new "a" 7 ⟨0⟩]

theorem reordered_mixed :
    ((handle (.addReadings ⟨⟨[1]⟩, mixed⟩)).on unread).1 = .ok (.readingsAdded ⟨[1]⟩ 2 1 1) ∧
      ((handle (.addReadings ⟨⟨[1]⟩, mixed.reverse⟩)).on unread).1 =
        .ok (.readingsAdded ⟨[1]⟩ 2 1 1) ∧
      Reordered ⟨[1]⟩ ((handle (.addReadings ⟨⟨[1]⟩, mixed⟩)).on unread).2
        ((handle (.addReadings ⟨⟨[1]⟩, mixed.reverse⟩)).on unread).2 := by
  have nothing : storedCoordinates unread = ∅ :=
    storedCoordinates_of_quiet (storedCoordinates_of_quiet storedCoordinates_empty rfl) rfl
  have present : device unread ⟨[1]⟩ =
      .ok ⟨⟨[1]⟩, ⟨[2]⟩, "01", [⟨"a", "temperature"⟩, ⟨"b", "force"⟩], []⟩ := by decide +kernel
  have noCollision : (storedCoordinates unread ∪
      namedCoordinates unread (.addReadings ⟨⟨[1]⟩, mixed⟩)).InjOn Coordinates.hash := by
    rw [nothing, Set.empty_union]
    apply injOn_of_listed
    · intro coordinates named
      exact mem_coordinatesOf named present
    · decide +kernel
  have succeeds : ((handle (.addReadings ⟨⟨[1]⟩, mixed⟩)).on unread).1 =
      .ok (.readingsAdded ⟨[1]⟩ 2 1 1) := by decide +kernel
  rcases reordered_of_perm (Reached.empty.foldl _) mixed.reverse_perm.symm noCollision with
    ⟨same, reordered⟩
  exact ⟨succeeds, same.symm.trans succeeds, reordered _ succeeds⟩

end DeviceRegistry.Registry
