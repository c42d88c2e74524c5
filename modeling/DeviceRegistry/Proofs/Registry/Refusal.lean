import Mathlib
import DeviceRegistry.Proofs.Registry.Atomicity
import DeviceRegistry.Proofs.Registry.Reception
import DeviceRegistry.Proofs.Registry.Refinement
/-!
# Messages that are refused as malformed

A malformed message is refused by its own check, before the registry is looked at. There is
one other way to the same kind of error. A channel may have an empty id, but a bucket of such
a channel is never stored. So a reading that names it is refused when the loop over the
readings of its message has come to it, and the readings before it stay stored.
-/

namespace DeviceRegistry

/-- Whether an error blames the input itself. -/
def RegistryError.isMalformed : RegistryError → Bool
  | .invalidAddress _ | .invalidRequest _ | .invalidDevice _ | .invalidBucket _ => true
  | _ => false

namespace Registry

/-- How a message is refused as malformed, and the store after it. -/
inductive Refused (store : Store) : Message → RegistryError → Store → Prop
  /-- It does not pass its own check. -/
  | faulty {message : Message} {error : RegistryError} (fault : message.check = .error error) :
      Refused store message error store
  /-- After some readings there is one for a channel with an empty id. -/
  | unnamed {address : Address} {found : Device} {channel : Channel}
      {done rest : List NewReading} {new : NewReading} {tally : Tally} {after : Store}
      (present : device store address = .ok found)
      (listed : Channel.find? found.channels "" = some channel) (unnamed : new.channelId = "")
      (stored : (done.foldlM (appendCounted address) ⟨0, 0, 0⟩).on store = (.ok tally, after))
      (unchanged : tally.accepted = 0 → after = store) :
      Refused store (.addReadings ⟨address, done ++ new :: rest⟩)
        (.invalidBucket (.noChannelId address)) after

variable {store after : Store} {address : Address} {error : RegistryError}

/-! ## Messages about devices -/

theorem device?_of_sound (sound : Sound store) (address : Address) :
    device? store address = .ok none ∨ ∃ found, device? store address = .ok (some found) := by
  rcases sound.consists.device_cases address with ⟨found, present, -⟩ | ⟨absent, -⟩
  · right
    exact ⟨found, device?_eq_ok_some.mpr present⟩
  · left
    exact device?_eq_ok_none.mpr absent

theorem handleSetOwner_fails (sound : Sound store) {message : SetOwner}
    (checked : message.check = .ok ())
    (fails : (handleSetOwner message).on store = (.error error, after)) :
    ∃ cause, error = .unauthorized cause := by
  rw [on_handleSetOwner store checked] at fails
  rcases device?_of_sound sound message.device with looked | ⟨found, looked⟩
  · by_cases self : message.owner = message.device
    · simp [looked, self] at fails
    · simp only [looked, self, if_false] at fails
      cases fails
      exact ⟨.notSelf, rfl⟩
  · by_cases same : found.owner = message.owner
    · simp [looked, same] at fails
    · simp only [looked, same, if_false] at fails
      cases fails
      exact ⟨.notOwner, rfl⟩

/-- An edit of a registered device succeeds, and the device stays registered. -/
theorem handleUpdateChannels_fails (sound : Sound store) {message : UpdateChannels}
    (fails : (handleUpdateChannels message).on store = (.error error, after)) :
    error = .unknownDevice ∨ error = .unauthorized .notOwner := by
  rw [on_handleUpdateChannels] at fails
  rcases device?_of_sound sound message.device with looked | ⟨found, looked⟩
  · simp only [looked] at fails
    cases fails
    exact Or.inl rfl
  · by_cases same : found.owner = message.owner
    · simp only [looked, same, if_true] at fails
      have present := device?_eq_ok_some.mp looked
      rcases sound.consists.of_device present with ⟨-, -, named, -⟩
      rcases succeeds_updates present named ⟨0, 0, 0⟩ message.updates with ⟨tally, last, edited⟩
      simp [edited] at fails
    · simp only [looked, same, if_false] at fails
      cases fails
      exact Or.inr rfl

/-! ## Messages about readings -/

/-- What the readings before a refused one leave behind. -/
structure Begun (store : Store) (address : Address) (channels : List Channel) (tally : Tally)
    (after : Store) : Prop where
  sound : Sound after
  present : ∃ later, device after address = .ok later ∧ later.channels = channels
  unchanged : tally.accepted = 0 → after = store

theorem Begun.append {channels : List Channel} {tally next : Tally} {middle : Store}
    {new : NewReading} (begun : Begun store address channels tally middle)
    (succeeds : (appendCounted address tally new).on middle = (.ok next, after)) :
    Begun store address channels next after := by
  rcases begun with ⟨sound, ⟨found, present, rfl⟩, unchanged⟩
  have channelsAfter := Offers.appendCounted ⟨found, present, rfl⟩ address tally new
  have received := received_appendCounted sound.consists present tally new
  have soundAfter := sound.appendCounted address tally new
  rw [succeeds] at channelsAfter received soundAfter
  refine {
    sound := soundAfter
    present := channelsAfter
    unchanged := ?_ }
  intro none
  cases received with
  | skipped => exact unchanged none
  | duplicate => exact unchanged none
  | extended => simp at none
  | opened => simp at none

theorem handleAddReadings_fails (sound : Sound store) {message : AddReadings}
    (fails : (handleAddReadings message).on store = (.error error, after)) :
    error = .unknownDevice ∨ Refused store (.addReadings message) error after := by
  rw [on_handleAddReadings] at fails
  rcases device?_of_sound sound message.device with looked | ⟨found, looked⟩
  · simp only [looked] at fails
    cases fails
    exact Or.inl rfl
  · right
    simp only [looked] at fails
    rcases outcome : (message.readings.foldlM (appendCounted message.device) ⟨0, 0, 0⟩).on store
      with ⟨fault | tally, last⟩
    · simp only [outcome] at fails
      cases fails
      have present := device?_eq_ok_some.mp looked
      rcases Operation.foldlM_of_error outcome with
        ⟨done, new, rest, tally, middle, split, doneWell, failsHere⟩
      have begun : Begun store message.device found.channels tally middle := by
        apply Operation.foldlM_of_ok
          (fun _ => Begun store message.device found.channels) _ _ doneWell
        · intro _ earlier _ tally next before after begun one
          exact begun.append one
        · exact ⟨sound, ⟨found, present, rfl⟩, fun _ => rfl⟩
      rcases begun with ⟨soundThere, ⟨later, presentLater, channels⟩, unchanged⟩
      have received := received_appendCounted soundThere.consists presentLater tally new
      rw [failsHere] at received
      cases received with
      | @refused channel listed unknown unnamed =>
        have sameId : channel.id = new.channelId := by
          simpa using List.find?_some listed
        have asked : new.channelId = "" := sameId.symm.trans unnamed
        rw [Device.channel?, channels, asked] at listed
        cases message
        cases split
        exact .unnamed present listed asked doneWell unchanged
    · simp [outcome] at fails

/-! ## Main result -/

/-- A message that is refused as malformed has failed its own check, or at such a reading. -/
theorem refused_of_malformed (sound : Sound store) {message : Message}
    (fails : (handle message).on store = (.error error, after))
    (malformed : error.isMalformed = true) : Refused store message error after := by
  rw [on_handle] at fails
  rcases checked : message.check with fault | ⟨⟩
  · simp only [checked] at fails
    cases fails
    exact .faulty checked
  · simp only [checked] at fails
    cases message with
    | setOwner message =>
      rcases handleSetOwner_fails sound checked fails with ⟨cause, rfl⟩
      contradiction
    | updateChannels message =>
      rcases handleUpdateChannels_fails sound fails with rfl | rfl <;> contradiction
    | addReadings message =>
      rcases handleAddReadings_fails sound fails with rfl | refused
      · contradiction
      · exact refused

/-- Only a reading that names no channel can be refused after something was written. -/
theorem unchanged_of_malformed (sound : Sound store) {message : Message}
    (fails : (handle message).on store = (.error error, after))
    (malformed : error.isMalformed = true)
    (named : ∀ request, message = .addReadings request →
      ∀ new ∈ request.readings, new.channelId ≠ "") : after = store := by
  cases refused_of_malformed sound fails malformed with
  | faulty => rfl
  | @unnamed _ _ _ done rest new _ _ present listed unnamed =>
    exact absurd unnamed (named _ rfl new (by simp))

theorem sound_handleEach (sound : Sound store) (messages : List Message) :
    Sound (handleEach store messages).2 :=
  handleEach_preserves Sound sound fun message _ _ soundHere => soundHere.handle message

/-- In every registry that messages build up, a malformed message is refused in these ways. -/
theorem refused_of_handleEach (earlier : List Message) {message : Message}
    (fails : ((handle message).on (handleEach .empty earlier).2).1 = .error error)
    (malformed : error.isMalformed = true) :
    Refused (handleEach .empty earlier).2 message error
      ((handle message).on (handleEach .empty earlier).2).2 :=
  refused_of_malformed (sound_handleEach .empty earlier) (Prod.ext fails rfl) malformed

/-- A device has a channel with an empty id next to one with a name. -/
def namelessChannel : List Message :=
  [.setOwner ⟨⟨[1]⟩, ⟨[1]⟩, ⟨[2]⟩, ""⟩,
    .updateChannels ⟨⟨[2]⟩, ⟨[1]⟩, [.assign "a" "temperature", .assign "" "force"]⟩]

/-- The second reading is refused, and the first one stays stored. -/
def halfRefused : Message :=
  .addReadings ⟨⟨[1]⟩, [.new "a" 86400 ⟨0⟩, .new "" 86400 ⟨0⟩]⟩

theorem refused_halfRefused :
    Refused (handleEach .empty namelessChannel).2 halfRefused (.invalidBucket (.noChannelId ⟨[1]⟩))
      ((handle halfRefused).on (handleEach .empty namelessChannel).2).2 :=
  refused_of_handleEach namelessChannel (by decide +kernel) rfl

theorem malformed_not_refused_before_any_write :
    ¬∀ (earlier : List Message) (message : Message) (error : RegistryError),
      error.isMalformed = true →
      ((handle message).on (handleEach .empty earlier).2).1 = .error error →
      ((handle message).on (handleEach .empty earlier).2).2 = (handleEach .empty earlier).2 := by
  intro unchanged
  have same := unchanged namelessChannel halfRefused (.invalidBucket (.noChannelId ⟨[1]⟩)) rfl
    (by decide +kernel)
  have grown : ((handle halfRefused).on (handleEach .empty namelessChannel).2).2.entries.length ≠
      (handleEach .empty namelessChannel).2.entries.length := by decide +kernel
  exact grown (congrArg (fun store => store.entries.length) same)

end Registry

end DeviceRegistry
