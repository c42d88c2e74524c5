import Mathlib
import DeviceRegistry.Proofs.Registry.Operations
/-!
# Messages that succeed

What is known of a store and of an event when a message was carried out to its end: the
device that the message found, whose signature it bore, and the loop that has run through.
-/

namespace DeviceRegistry.Registry

variable {store after : Store} {event : Event}

/-- A device was handed over by its owner, or it has registered itself. -/
theorem handleSetOwner_eq_ok {message : SetOwner} (checked : message.check = .ok ())
    (succeeds : (handleSetOwner message).on store = (.ok event, after)) :
    (∃ found, device store message.device = .ok found ∧ found.owner = message.owner ∧
      event = .ownerChanged message.device found.owner message.newOwner ∧
      after = store.put (.device message.device)
        (placed message.device { found with owner := message.newOwner })) ∨
    (device store message.device = .error (.deviceNotFound message.device) ∧
      message.owner = message.device ∧
      event = .deviceCreated message.device message.newOwner ∧
      after = store.put (.device message.device)
        { Device.new message.device message.newOwner with
          name := if message.name.isEmpty then message.device.text else message.name }) := by
  rw [on_handleSetOwner store checked] at succeeds
  rcases looked : device? store message.device with error | _ | found
  · simp [looked] at succeeds
  · right
    by_cases self : message.owner = message.device
    · simp only [looked, self, if_true, Prod.mk.injEq, Except.ok.injEq] at succeeds
      rcases succeeds with ⟨rfl, rfl⟩
      exact ⟨device?_eq_ok_none.mp looked, self, rfl, rfl⟩
    · simp [looked, self] at succeeds
  · left
    by_cases same : found.owner = message.owner
    · simp only [looked, same, if_true, Prod.mk.injEq, Except.ok.injEq] at succeeds
      rcases succeeds with ⟨rfl, rfl⟩
      exact ⟨found, device?_eq_ok_some.mp looked, same, by rw [same], rfl⟩
    · simp [looked, same] at succeeds

theorem handleUpdateChannels_eq_ok {message : UpdateChannels}
    (succeeds : (handleUpdateChannels message).on store = (.ok event, after)) :
    ∃ found tally, device store message.device = .ok found ∧ found.owner = message.owner ∧
      (message.updates.foldlM (updateCounted message.device) ⟨0, 0, 0⟩).on store =
        (.ok tally, after) ∧
      event = .channelsUpdated message.device tally.assigned tally.removed tally.ignored := by
  rw [on_handleUpdateChannels] at succeeds
  rcases looked : device? store message.device with error | _ | found
  · simp [looked] at succeeds
  · simp [looked] at succeeds
  · by_cases same : found.owner = message.owner
    · rcases outcome : (message.updates.foldlM (updateCounted message.device) ⟨0, 0, 0⟩).on store
        with ⟨error | tally, last⟩
      · simp [looked, same, outcome] at succeeds
      · simp only [looked, same, if_true, outcome, Prod.mk.injEq, Except.ok.injEq] at succeeds
        rcases succeeds with ⟨rfl, rfl⟩
        exact ⟨found, tally, device?_eq_ok_some.mp looked, same, rfl, rfl⟩
    · simp [looked, same] at succeeds

theorem handleAddReadings_eq_ok {message : AddReadings}
    (succeeds : (handleAddReadings message).on store = (.ok event, after)) :
    ∃ found tally, device store message.device = .ok found ∧
      (message.readings.foldlM (appendCounted message.device) ⟨0, 0, 0⟩).on store =
        (.ok tally, after) ∧
      event = .readingsAdded message.device tally.accepted tally.duplicates tally.skipped := by
  rw [on_handleAddReadings] at succeeds
  rcases looked : device? store message.device with error | _ | found
  · simp [looked] at succeeds
  · simp [looked] at succeeds
  · rcases outcome : (message.readings.foldlM (appendCounted message.device) ⟨0, 0, 0⟩).on store
      with ⟨error | tally, last⟩
    · simp [looked, outcome] at succeeds
    · simp only [looked, outcome, Prod.mk.injEq, Except.ok.injEq] at succeeds
      rcases succeeds with ⟨rfl, rfl⟩
      exact ⟨found, tally, device?_eq_ok_some.mp looked, rfl, rfl⟩

/-- Only a message that passes its own check is carried out. -/
theorem handle_eq_ok {message : Message}
    (succeeds : (handle message).on store = (.ok event, after)) :
    message.check = .ok () ∧ (handleUnchecked message).on store = (.ok event, after) := by
  rw [on_handle] at succeeds
  rcases checked : message.check with error | ⟨⟩
  · simp [checked] at succeeds
  · simp only [checked] at succeeds
    exact ⟨rfl, succeeds⟩

end DeviceRegistry.Registry
