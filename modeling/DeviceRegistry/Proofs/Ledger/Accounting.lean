import Mathlib
import DeviceRegistry.Proofs.Ledger.Log
import DeviceRegistry.Proofs.Registry.Holdings
import DeviceRegistry.Proofs.Registry.Reception
import DeviceRegistry.Proofs.Registry.Refinement
/-!
# The log accounts for every reading

An event tells how many edits or readings its message had, each in one of three numbers. Of
the readings, those that were accepted are in the buckets of the device when the message is
done, next to those that were there before. A failed delivery may have stored some of its
readings by the time it fails; log and store are both as if it had never been tried.
-/

namespace DeviceRegistry

/-- Whether an event tells of a message, and counts all that the message asks for. -/
def Message.Accounted : Message → Event → Prop
  | .setOwner message, .deviceCreated device _ => device = message.device
  | .setOwner message, .ownerChanged device _ _ => device = message.device
  | .updateChannels message, .channelsUpdated device assigned removed ignored =>
    device = message.device ∧ assigned + removed + ignored = message.updates.length
  | .addReadings message, .readingsAdded device accepted duplicates skipped =>
    device = message.device ∧ accepted + duplicates + skipped = message.readings.length
  | _, _ => False

/-- How many readings of a device an event tells to have been accepted. -/
def Event.acceptedFor (address : Address) : Event → Nat
  | .readingsAdded device accepted _ _ => if device = address then accepted else 0
  | _ => 0

namespace Registry

variable {store after : Store} {address : Address} {event : Event}

/-! ## What a message counts -/

theorem total_updateCounted {update : ChannelUpdate} {tally next : EditTally}
    (succeeds : (updateCounted address tally update).on store = (.ok next, after)) :
    next.assigned + next.removed + next.ignored =
      tally.assigned + tally.removed + tally.ignored + 1 := by
  rw [eq_count_of_updateCounted succeeds, EditTally.count]
  cases update.action <;> grind

/-- An event counts all that its message asks for, whatever becomes of it. -/
theorem accounted_handle {message : Message}
    (succeeds : (handle message).on store = (.ok event, after)) : message.Accounted event := by
  rcases handle_eq_ok succeeds with ⟨checked, carriedOut⟩
  cases message with
  | setOwner message =>
    rcases handleSetOwner_eq_ok checked carriedOut with
      ⟨found, -, -, rfl, -⟩ | ⟨-, -, rfl, -⟩ <;> rfl
  | updateChannels message =>
    rcases handleUpdateChannels_eq_ok carriedOut with ⟨found, tally, -, -, outcome, rfl⟩
    refine ⟨rfl, ?_⟩
    apply Operation.foldlM_of_ok
      (fun done tally _ => tally.assigned + tally.removed + tally.ignored = done.length) _ rfl
      outcome
    intro done update _ tally next before after counted one
    rw [total_updateCounted one, counted, List.length_append]
    rfl
  | addReadings message =>
    rcases handleAddReadings_eq_ok carriedOut with ⟨found, tally, -, outcome, rfl⟩
    exact ⟨rfl, total_readings outcome⟩

/-! ## What a message stores -/

/-- A store gains the readings that an event tells to have been accepted. -/
theorem readingCount_handle {occur : Set Coordinates} (noCollision : occur.InjOn Coordinates.hash)
    (sound : Sound store) (stored : storedCoordinates store ⊆ occur) {message : Message}
    (named : namedCoordinates store message ⊆ occur)
    (succeeds : (handle message).on store = (.ok event, after)) :
    readingCount after address = readingCount store address + event.acceptedFor address := by
  rcases handle_eq_ok succeeds with ⟨checked, carriedOut⟩
  cases message with
  | setOwner message =>
    rcases handleSetOwner_eq_ok checked carriedOut with
      ⟨found, -, -, rfl, rfl⟩ | ⟨-, -, rfl, rfl⟩ <;> exact readingCount_put_device _ _
  | updateChannels message =>
    rcases handleUpdateChannels_eq_ok carriedOut with ⟨found, tally, -, -, outcome, rfl⟩
    exact readingCount_updateChannels outcome
  | addReadings message =>
    rcases handleAddReadings_eq_ok carriedOut with ⟨found, tally, present, outcome, rfl⟩
    exact readingCount_addReadings noCollision sound stored named present outcome

end Registry

/-! ## Runs -/

namespace Ledger

open Registry

theorem accounted_handleAll {messages : List Message} {store after : Store} {events : List Event}
    (succeeds : (handleAll messages).on store = (.ok events, after)) :
    List.Forall₂ Message.Accounted messages events := by
  induction messages generalizing store events with
  | nil =>
    cases succeeds
    exact .nil
  | cons first rest hypothesis =>
    rcases handleAll_cons_eq_ok succeeds with ⟨event, later, middle, done, others, rfl⟩
    exact .cons (accounted_handle done) (hypothesis others)

theorem Logged.accepted {occur : Set Coordinates} (noCollision : occur.InjOn Coordinates.hash)
    {events : List Event} {store : Store} (logged : Logged occur events store)
    (address : Address) :
    (events.map (Event.acceptedFor address)).sum = readingCount store address := by
  induction logged with
  | start => exact readingCount_empty.symm
  | handled logged named succeeds hypothesis =>
    rw [readingCount_handle noCollision logged.sound logged.stored named succeeds, ← hypothesis]
    simp

/-- Every edit and every reading of a run is counted by an event, and the store holds what
is counted as accepted. -/
theorem readings_accounted_by_log (now : Int64) (commands : List Command)
    (noCollision : (coordinatesFrom (new now) commands).InjOn Coordinates.hash) :
    (∀ earlier transaction later events, commands = earlier ++ .deliver transaction :: later →
        ((run now earlier).deliver transaction).1 = .ok events →
        List.Forall₂ Message.Accounted transaction.messages events) ∧
      ∀ address, ((log now commands).map (Event.acceptedFor address)).sum =
        readingCount (run now commands).store address := by
  refine ⟨?_, ?_⟩
  · intro earlier transaction later events split succeeds
    rcases deliver_eq_ok succeeds with ⟨bank, store, -, handled, -⟩
    exact accounted_handleAll handled
  · exact (logged_run now commands subset_rfl).accepted noCollision

/-- Of three readings in two buckets one is a duplicate, and a delivery before them fails. -/
theorem readings_accounted_changingHands :
    ((log 0 (withFailure ++ [.deliver changingHands])).map
        (Event.acceptedFor ⟨[1]⟩)).sum = 2 ∧
      readingCount (run 0 (withFailure ++ [.deliver changingHands])).store ⟨[1]⟩ = 2 := by
  -- Both are read off one evaluation of the run.
  obtain ⟨logged, distinct⟩ : ((log 0 (withFailure ++ [.deliver changingHands])).map
        (Event.acceptedFor ⟨[1]⟩)).sum = 2 ∧
      ((coordinatesListFrom (new 0) (withFailure ++ [.deliver changingHands])).dedup.map
        Coordinates.hash).Nodup := by decide +kernel
  have noCollision : (coordinatesFrom (new 0)
      (withFailure ++ [.deliver changingHands])).InjOn Coordinates.hash := by
    apply injOn_of_listed (coordinatesListFrom (new 0) (withFailure ++ [.deliver changingHands]))
    · intro coordinates occurs
      exact mem_coordinatesListFrom_new occurs
    · exact distinct
  have accounted := (readings_accounted_by_log 0 _ noCollision).2 ⟨[1]⟩
  exact ⟨logged, accounted.symm.trans logged⟩

end Ledger

end DeviceRegistry
