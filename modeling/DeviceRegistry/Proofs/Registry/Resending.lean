import Mathlib
import DeviceRegistry.Proofs.Registry.Batches
import DeviceRegistry.Proofs.Registry.Portions
/-!
# Readings that are sent again

A message about readings may be delivered twice, with anything in between. The second time it
finds every slot taken that it has found or taken the first time, since buckets only grow and
stay where they are. So all of its readings are duplicates, but for those of unknown channels,
and a duplicate writes nothing.

Only the channels of the device must not be edited in between. A renamed channel has other
buckets, and an unknown one may have come to be known.
-/

namespace DeviceRegistry.Registry

variable {store after : Store} {address : Address} {found : Device}

/-! ## Channels that stay -/

section Offers

variable {channels : List Channel}

/-- Only a message that edits the channels of a device changes them. -/
theorem Offers.handle (offers : Offers store address channels) (covered : Covered store)
    {message : Message} (unedited : ∀ edit, message = .updateChannels edit → edit.device ≠ address) :
    Offers ((handle message).on store).2 address channels := by
  rcases offers with ⟨found, present, rfl⟩
  rcases covered.channels_handle message present with
    ⟨next, presentNext, same | ⟨edit, isEdit, here, -⟩⟩
  · exact ⟨next, presentNext, same⟩
  · exact absurd here (unedited edit isEdit)

theorem Offers.handleEach (offers : Offers store address channels) (covered : Covered store)
    {messages : List Message}
    (unedited : ∀ edit, .updateChannels edit ∈ messages → edit.device ≠ address) :
    Offers (handleEach store messages).2 address channels := by
  apply covered.handleEach_preserves (fun next => Offers next address channels) offers
  intro message member before coveredHere here
  apply here.handle coveredHere
  rintro edit rfl
  exact unedited edit member

end Offers

/-! ## Slots that stay taken -/

theorem Grows.taken (grows : Grows store after) : taken store ⊆ taken after := by
  rintro slot ⟨stored, stands, contained⟩
  rcases grows.bucket stands with ⟨next, standsNext, -, -, -, more⟩
  refine ⟨next, standsNext, ?_⟩
  rw [Bucket.contains_eq_true] at contained ⊢
  exact (more.map Reading.timestamp).subset contained

/-- A reading for a slot that is taken changes nothing. -/
theorem on_appendCounted_of_taken (present : device store address = .ok found) {new : NewReading}
    (occupied : ∀ slot, slot? address found.channels new = some slot → slot ∈ taken store)
    (tally : Tally) :
    ∃ next, (appendCounted address tally new).on store = (.ok next, store) := by
  rcases listed : found.channel? new.channelId with _ | channel
  · exact ⟨_, on_appendCounted_of_missing present listed tally⟩
  · rcases occupied _ (slot?_of_listed address listed) with ⟨known, stands, contained⟩
    have looked := channel_eq_ok.mpr ⟨found, present, listed⟩
    rw [on_appendCounted, appendOnItsDay, on_append_of_contains looked stands contained]
    exact ⟨_, rfl⟩

theorem on_readings_of_taken (present : device store address = .ok found)
    {readings : List NewReading}
    (occupied : ∀ slot ∈ slots address found.channels readings, slot ∈ taken store)
    (tally : Tally) :
    ∃ last, (readings.foldlM (appendCounted address) tally).on store = (.ok last, store) := by
  induction readings generalizing tally with
  | nil => exact ⟨tally, rfl⟩
  | cons first rest hypothesis =>
    have occupiedFirst : ∀ slot, slot? address found.channels first = some slot →
        slot ∈ taken store := by
      intro slot seek
      apply occupied
      exact List.mem_filterMap.mpr ⟨first, List.mem_cons_self, seek⟩
    have occupiedRest : ∀ slot ∈ slots address found.channels rest, slot ∈ taken store := by
      intro slot member
      rcases List.mem_filterMap.mp member with ⟨new, memberRest, seek⟩
      apply occupied
      exact List.mem_filterMap.mpr ⟨new, List.mem_cons_of_mem _ memberRest, seek⟩
    rcases on_appendCounted_of_taken present occupiedFirst tally with ⟨next, one⟩
    rcases hypothesis occupiedRest next with ⟨last, done⟩
    refine ⟨last, ?_⟩
    rw [List.foldlM_cons, Operation.on_bind_of_ok one]
    exact done

/-! ## Main result -/

/-- A message that has been carried out adds nothing if it is sent again. -/
theorem readings_sent_again (reached : Reached store) {message : AddReadings}
    {accepted duplicates skipped : Nat}
    (succeeds : (handle (.addReadings message)).on store =
      (.ok (.readingsAdded message.device accepted duplicates skipped), after))
    {later : List Message}
    (unedited : ∀ edit, .updateChannels edit ∈ later → edit.device ≠ message.device) :
    (handle (.addReadings message)).on (handleEach after later).2 =
      (.ok (.readingsAdded message.device 0 (accepted + duplicates) skipped),
        (handleEach after later).2) := by
  rcases handle_eq_ok succeeds with ⟨checked, carriedOut⟩
  rcases handleAddReadings_eq_ok carriedOut with ⟨found, tally, present, done, event⟩
  cases event
  have absorbed := absorbed_of_readings reached.covered present done
  rcases absorbed.listed with ⟨next, -, presentNext, channelsNext, -⟩
  have grows := absorbed.covered.grows_handleEach later
  have covered := absorbed.covered.handleEach later
  have offers : Offers (handleEach after later).2 message.device found.channels :=
    Offers.handleEach ⟨next, presentNext, channelsNext⟩ absorbed.covered unedited
  -- Of the store after all that is in between, no more than this is needed.
  generalize (handleEach after later).2 = last at grows covered offers ⊢
  rcases offers with ⟨home, presentHome, channelsHome⟩
  have occupied : ∀ slot ∈ slots message.device home.channels message.readings,
      slot ∈ taken last := by
    intro slot member
    rw [channelsHome] at member
    exact grows.taken ((absorbed.taken slot).mpr (Or.inr member))
  rcases on_readings_of_taken presentHome occupied ⟨0, 0, 0⟩ with ⟨again, doneAgain⟩
  have absorbedAgain := absorbed_of_readings covered presentHome doneAgain
  have none : again.accepted = 0 := by
    rw [absorbedAgain.accepted, novel_of_taken occupied, Set.ncard_empty]
  have counted := absorbed.counted
  have countedAgain := absorbedAgain.counted
  rw [channelsHome] at countedAgain
  have repeated : again.duplicates = tally.accepted + tally.duplicates := by omega
  have total := total_readings done
  have totalAgain := total_readings doneAgain
  have passedOver : again.skipped = tally.skipped := by omega
  rw [on_handle, checked]
  simp only [handleUnchecked]
  rw [on_handleAddReadings, device?_eq_ok_some.mpr presentHome]
  simp only [doneAgain, none, repeated, passedOver]

/-- Readings of two days, two of them for one slot, and one for no channel. -/
def severalDays : AddReadings :=
  ⟨⟨[1]⟩, [.new "a" 86400 ⟨0⟩, .new "a" 7 ⟨0⟩, .new "a" 86400 ⟨1⟩, .new "z" 7 ⟨0⟩]⟩

/-- The device is handed over and read again, and a channel of another device is edited. -/
def inBetween : List Message :=
  [.setOwner ⟨⟨[1]⟩, ⟨[9]⟩, ⟨[8]⟩, ""⟩, .addReadings ⟨⟨[1]⟩, [.new "a" 86401 ⟨0⟩]⟩,
    .updateChannels ⟨⟨[9]⟩, ⟨[2]⟩, [.assign "a" "noise"]⟩]

theorem readings_sent_again_severalDays :
    ∃ after, (handle (.addReadings severalDays)).on ((importGenesis entangled).on .empty).2 =
        (.ok (.readingsAdded ⟨[1]⟩ 2 1 1), after) ∧
      (handle (.addReadings severalDays)).on (handleEach after inBetween).2 =
        (.ok (.readingsAdded ⟨[1]⟩ 0 3 1), (handleEach after inBetween).2) := by
  have reached : Reached ((importGenesis entangled).on .empty).2 :=
    .imported (Covered.importGenesis (by decide)).1
  have succeeds : ((handle (.addReadings severalDays)).on
      ((importGenesis entangled).on .empty).2).1 = .ok (.readingsAdded ⟨[1]⟩ 2 1 1) := by
    decide +kernel
  have unedited : ∀ edit, .updateChannels edit ∈ inBetween → edit.device ≠ ⟨[1]⟩ := by
    intro edit member
    obtain rfl : edit = ⟨⟨[9]⟩, ⟨[2]⟩, [.assign "a" "noise"]⟩ := by simpa [inBetween] using member
    decide
  rcases outcome : (handle (.addReadings severalDays)).on ((importGenesis entangled).on .empty).2
    with ⟨result, after⟩
  rw [outcome] at succeeds
  obtain rfl : result = .ok (.readingsAdded ⟨[1]⟩ 2 1 1) := succeeds
  exact ⟨after, rfl, readings_sent_again reached outcome unedited⟩

end DeviceRegistry.Registry
