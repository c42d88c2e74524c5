import Mathlib
import DeviceRegistry.Proofs.Registry.Atomicity
import DeviceRegistry.Proofs.Registry.Refinement
import DeviceRegistry.Proofs.Registry.Portions
/-!
# The last edit of a channel wins

A message may edit one id many times, and between two edits of it another channel may be
moved into a freed place. None of that is seen afterwards: where no two channels have one
id, what is found under an id is what the last edit of that id has left, and an id that was
not edited is found as before.

This holds on every store, since an edit looks at the entry of its own device only, and an
entry that can be read before an edit can be read after it.
-/

namespace DeviceRegistry.Registry

open Operation

variable {store after : Store} {address : Address}

/-- On a registered device the owner's edits are carried out and counted. -/
theorem handle_updateChannels_of_owner {message : UpdateChannels} {found : Device}
    (present : device store message.device = .ok found)
    (named : message.device.isEmpty = false) (owns : found.owner = message.owner)
    (nonempty : message.updates ≠ []) :
    ∃ after, (handle (.updateChannels message)).on store =
      (.ok (.channelsUpdated message.device
        (message.updates.countP fun update => update.action = .assign)
        (message.updates.countP fun update => update.action = .remove)
        (Roster.countUnknown message.updates)), after) := by
  have owned := owner_of_device present
  rw [owns] at owned
  have checked : (Message.updateChannels message).check = .ok () :=
    updateChannels_check_eq_ok.mpr ⟨named, owned, nonempty⟩
  rcases succeeds_updates present named ⟨0, 0, 0⟩ message.updates with ⟨tally, after, edited⟩
  have counted := eq_foldl_count_of_updates edited
  rw [EditTally.foldl_count] at counted
  refine ⟨after, ?_⟩
  rw [on_handle, checked]
  simp only [handleUnchecked]
  rw [on_handleUpdateChannels, device?_eq_ok_some.mpr present]
  simp [owns, edited, counted]

/-! ## Main result -/

/-- What is found on a device after its channels were edited. -/
structure Edited (message : UpdateChannels) (store after : Store) : Prop where
  assigned : ∀ id update, ChannelUpdate.last? message.updates id = some update →
    update.action = .assign →
    channel after message.device id = .ok ⟨id, update.quantity⟩
  removed : ∀ id update, ChannelUpdate.last? message.updates id = some update →
    update.action = .remove →
    channel after message.device id = .error (.channelNotFound message.device id)
  /-- An id that was not edited is answered as before. -/
  untouched : ∀ id, ChannelUpdate.last? message.updates id = none →
    channel after message.device id = channel store message.device id
  distinct : ∃ next, device after message.device = .ok next ∧ Channel.DistinctIds next.channels

theorem edited_of_foldl_apply {message : UpdateChannels} {found next : Device}
    (present : device store message.device = .ok found)
    (distinct : Channel.DistinctIds found.channels)
    (presentNext : device after message.device = .ok next)
    (applied : next.channels =
      message.updates.foldl (fun before update => update.apply before) found.channels) :
    Edited message store after := by
  have sought := ChannelUpdate.find?_foldl_apply distinct message.updates
  rw [← applied] at sought
  constructor
  · intro id update last assigns
    have named := (ChannelUpdate.of_last?_eq_some last).1
    have left := sought id
    simp only [last, ChannelUpdate.leaves?, assigns, named] at left
    exact channel_eq_ok.mpr ⟨next, presentNext, left⟩
  · intro id update last removes
    have left := sought id
    simp only [last, ChannelUpdate.leaves?, removes] at left
    exact channel_eq_channelNotFound presentNext left
  · intro id unedited
    have left := sought id
    simp only [unedited] at left
    simp only [channel, present, presentNext, bind, Except.bind, Device.channel?, left]
  · refine ⟨next, presentNext, ?_⟩
    rw [applied]
    exact ChannelUpdate.distinctIds_foldl_apply distinct message.updates

/-- The owner's edits succeed and are counted, and the last edit of each id wins. -/
theorem last_edit_wins {message : UpdateChannels} {found : Device}
    (present : device store message.device = .ok found)
    (named : message.device.isEmpty = false) (owns : found.owner = message.owner)
    (distinct : Channel.DistinctIds found.channels) (nonempty : message.updates ≠ []) :
    ∃ after, (handle (.updateChannels message)).on store =
        (.ok (.channelsUpdated message.device
          (message.updates.countP fun update => update.action = .assign)
          (message.updates.countP fun update => update.action = .remove)
          (Roster.countUnknown message.updates)), after) ∧
      Edited message store after := by
  rcases handle_updateChannels_of_owner present named owns nonempty with ⟨after, succeeds⟩
  refine ⟨after, succeeds, ?_⟩
  rcases channels_handleUpdateChannels named (handle_eq_ok succeeds).2 with
    ⟨known, next, presentKnown, presentNext, applied⟩
  cases presentKnown.symm.trans present
  exact edited_of_foldl_apply present distinct presentNext applied

/-- A device with three channels, in a store with an entry that belongs to nobody. -/
def littered : Store :=
  (Store.empty.insert [7] [7]).put (.device ⟨[1]⟩)
    (Device.mk ⟨[1]⟩ ⟨[9]⟩ "meter" [⟨"a", "temperature"⟩, ⟨"b", "humidity"⟩, ⟨"c", "force"⟩] [])

/-- One id is renamed and removed, one is removed and set again, and one has no name. -/
def severalEdits : UpdateChannels :=
  ⟨⟨[9]⟩, ⟨[1]⟩,
    [.assign "a" "noise", .remove "b", ⟨"rename", "c", "wind"⟩, .assign "" "wind", .remove "a",
      .assign "b" "light", .remove "d"]⟩

theorem last_edit_wins_severalEdits :
    ∃ after, (handle (.updateChannels severalEdits)).on littered =
        (.ok (.channelsUpdated ⟨[1]⟩ 3 3 1), after) ∧
      channel after ⟨[1]⟩ "a" = .error (.channelNotFound ⟨[1]⟩ "a") ∧
      channel after ⟨[1]⟩ "b" = .ok ⟨"b", "light"⟩ ∧
      channel after ⟨[1]⟩ "c" = .ok ⟨"c", "force"⟩ := by
  have present : device littered ⟨[1]⟩ =
      .ok ⟨⟨[1]⟩, ⟨[9]⟩, "meter",
        [⟨"a", "temperature"⟩, ⟨"b", "humidity"⟩, ⟨"c", "force"⟩], []⟩ :=
    device_put_device_self _ rfl
  have before : channel littered ⟨[1]⟩ "c" = .ok ⟨"c", "force"⟩ :=
    channel_eq_ok.mpr ⟨_, present, rfl⟩
  rcases @last_edit_wins littered severalEdits _ present rfl rfl
      (by simp [Channel.DistinctIds]) (by simp [severalEdits]) with ⟨after, succeeds, edited⟩
  refine ⟨after, succeeds, ?_, ?_, ?_⟩
  · exact edited.removed "a" (.remove "a") (by decide) (by decide)
  · exact edited.assigned "b" (.assign "b" "light") (by decide) (by decide)
  · exact (edited.untouched "c" (by decide)).trans before

end DeviceRegistry.Registry
