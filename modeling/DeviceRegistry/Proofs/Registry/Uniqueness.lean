import Mathlib
import DeviceRegistry.Proofs.Registry.Loading
import DeviceRegistry.Proofs.Registry.Portions
/-!
# One reading for a timestamp, one channel for an id

Messages make nothing ambiguous. A reading is appended only if its timestamp is new to the
bucket, and a channel is added only if its id is new to the device. But a genesis may list
several readings of one timestamp in a bucket and several channels of one id on a device,
and messages leave that as it is. In particular a removal takes the first channel with an
id and leaves the others.

So what is unique after any messages is what the last entries of the genesis have at most
once, and everything that came later.
-/

namespace DeviceRegistry

/-- Whether a message sets a channel of a device. -/
def Message.assigns (message : Message) (address : Address) (id : String) : Bool :=
  match message with
  | .updateChannels edit =>
    edit.device = address &&
      edit.updates.any fun update => update.id = id && update.action = .assign
  | _ => false

namespace Registry

variable {store after : Store} {address : Address} {id : String}

/-! ## Timestamps -/

/-- A reading only arrives where its timestamp is new. -/
theorem Step.nodup_timestamps (covered : Covered store) {mark : Mark}
    (step : Step store mark after) {hash : BucketHash}
    (distinct : ∀ stored, bucket store hash = .ok stored →
      (stored.readings.map Reading.timestamp).Nodup) :
    ∀ stored, bucket after hash = .ok stored →
      (stored.readings.map Reading.timestamp).Nodup := by
  intro stored stands
  cases step with
  | register name absent named owned =>
    rw [bucket_put_device] at stands
    exact distinct stored stands
  | handOver present named owned =>
    rw [bucket_put_device] at stands
    exact distinct stored stands
  | editChannels update present named =>
    rw [bucket_put_device] at stands
    exact distinct stored stands
  | extend present listed known fresh checked =>
    -- The bucket is written under its own hash, which is where it was found.
    rcases covered.consists.of_bucket known with ⟨-, hashSame, -⟩
    rw [hashSame, bucket_put_bucket] at stands
    split at stands
    · rename_i here
      cases stands
      rw [← here] at known
      exact Bucket.nodup_push (distinct _ known) fresh
    · exact distinct stored stands
  | openBucket present listed unknown named channelNamed =>
    rw [bucket_put_device, bucket_put_bucket] at stands
    split at stands
    · cases stands
      exact List.nodup_singleton _
    · exact distinct stored stands

/-! ## Channels with one id -/

/-- A device has at most one channel with an id. -/
def SingleChannel (store : Store) (address : Address) (id : String) : Prop :=
  ∀ found, device store address = .ok found → Channel.count found.channels id ≤ 1

theorem SingleChannel.handle (single : SingleChannel store address id) (covered : Covered store)
    (message : Message) : SingleChannel ((handle message).on store).2 address id := by
  intro next presentNext
  rcases covered.consists.device_cases address with ⟨found, present, -⟩ | ⟨absent, -⟩
  · rcases covered.channels_handle message present with
      ⟨last, presentLast, same | ⟨edit, -, -, applied⟩⟩
    · cases presentLast.symm.trans presentNext
      rw [same]
      exact single found present
    · cases presentLast.symm.trans presentNext
      rw [applied, ChannelUpdate.count_foldl_apply]
      exact ChannelUpdate.foldl_recount_le_one edit.updates (single found present)
  · by_cases here : message.device = address
    · subst here
      have rewrites := rewrites_handle covered message
      rw [absent, presentNext] at rewrites
      -- A device that was not there has just been registered, without any channels.
      cases rewrites with
      | register => exact Nat.zero_le 1
    · rw [covered.device_handle_elsewhere here, absent] at presentNext
      contradiction

theorem SingleChannel.handleEach (single : SingleChannel store address id)
    (covered : Covered store) (messages : List Message) :
    SingleChannel (handleEach store messages).2 address id := by
  apply covered.handleEach_preserves (fun next => SingleChannel next address id) single
  intro message _ before coveredHere here
  exact here.handle coveredHere message

theorem Loaded.singleChannel {genesis : Genesis} (loaded : Loaded genesis store)
    (single : ∀ last ∈ genesis.lastDevice? address, Channel.count last.channels id ≤ 1) :
    SingleChannel store address id := by
  intro home present
  rcases loaded.of_device present with ⟨last, found, rfl⟩
  rw [Device.channels_foldl_takeIn]
  exact single last found

/-! ## Channels that are gone -/

/-- A registered device has no channel with an id. -/
def Lacks (store : Store) (address : Address) (id : String) : Prop :=
  ∃ found, device store address = .ok found ∧ found.channel? id = none

namespace Lacks

theorem appendCounted (lacks : Lacks store address id) (other : Address) (tally : Tally)
    (new : NewReading) : Lacks ((appendCounted other tally new).on store).2 address id := by
  rcases lacks with ⟨found, present, missing⟩
  have offers : Offers store address found.channels := ⟨found, present, rfl⟩
  rcases offers.appendCounted other tally new with ⟨next, presentNext, same⟩
  refine ⟨next, presentNext, ?_⟩
  rw [Device.channel?, same]
  exact missing

/-- A channel that a device does not have is not there again until a message sets it. -/
theorem handle (lacks : Lacks store address id) (covered : Covered store) {message : Message}
    (unset : message.assigns address id = false) :
    Lacks ((handle message).on store).2 address id := by
  rcases lacks with ⟨found, present, missing⟩
  rcases covered.channels_handle message present with
    ⟨next, presentNext, same | ⟨edit, rfl, rfl, applied⟩⟩
  · refine ⟨next, presentNext, ?_⟩
    rw [Device.channel?, same]
    exact missing
  · refine ⟨next, presentNext, ?_⟩
    have none := Channel.find?_eq_none_iff_count.mp missing
    apply Channel.find?_eq_none_iff_count.mpr
    rw [applied, ChannelUpdate.count_foldl_apply, none]
    apply ChannelUpdate.foldl_recount_zero
    rintro update member ⟨named, assigns⟩
    have sets : edit.updates.any
        (fun update => update.id = id && update.action = .assign) = true := by
      rw [List.any_eq_true]
      exact ⟨update, member, by simp [named, assigns]⟩
    simp [Message.assigns, sets] at unset

theorem handleEach (lacks : Lacks store address id) (covered : Covered store)
    {messages : List Message}
    (unset : ∀ message ∈ messages, message.assigns address id = false) :
    Lacks (handleEach store messages).2 address id := by
  apply covered.handleEach_preserves (fun next => Lacks next address id) lacks
  intro message member before coveredHere here
  exact here.handle coveredHere (unset message member)

end Lacks

/-- There is no channel with an id, and whatever a message brings for it is passed over. -/
structure Silent (store : Store) (address : Address) (id : String) : Prop where
  missing : channel store address id = .error (.channelNotFound address id)
  skipped : ∀ (earlier : List NewReading) (tally : Tally) (middle : Store) (new : NewReading),
    (earlier.foldlM (appendCounted address) ⟨0, 0, 0⟩).on store = (.ok tally, middle) →
    new.channelId = id →
    (appendCounted address tally new).on middle =
      (.ok { tally with skipped := tally.skipped + 1 }, middle)

theorem Lacks.silent (lacks : Lacks store address id) : Silent store address id where
  missing := by
    rcases lacks with ⟨found, present, missing⟩
    exact channel_eq_channelNotFound present missing
  skipped earlier tally middle new succeeds named := by
    have loop := Operation.foldlM_preserves (fun before => Lacks before address id)
      (Registry.appendCounted address) earlier
      (fun tally new _ before here => here.appendCounted address tally new) ⟨0, 0, 0⟩ lacks
    rw [succeeds] at loop
    rcases loop with ⟨found, present, missing⟩
    rw [← named] at missing
    exact on_appendCounted_of_missing present missing tally

/-! ## Main result -/

/-- What is unique in a registry that began with a genesis, and stays so. -/
structure Unambiguous (genesis : Genesis) (store : Store) : Prop where
  /-- No bucket gets a second reading of a timestamp. -/
  timestamps : ∀ hash stored, bucket store hash = .ok stored →
    (∀ last ∈ genesis.lastBucket? hash, (last.readings.map Reading.timestamp).Nodup) →
    (stored.readings.map Reading.timestamp).Nodup
  /-- A removal takes one channel, and an assignment adds none where there is one already. -/
  counted : ∀ message event, ((handle (.updateChannels message)).on store).1 = .ok event →
    ∃ found next, device store message.device = .ok found ∧
      device ((handle (.updateChannels message)).on store).2 message.device = .ok next ∧
      ∀ id, Channel.count next.channels id =
        message.updates.foldl (fun before update => update.recount id before)
          (Channel.count found.channels id)
  /-- A channel is gone after its removal, until a message sets it again. -/
  removed : ∀ message event id, ((handle (.updateChannels message)).on store).1 = .ok event →
    (ChannelUpdate.last? message.updates id).map ChannelUpdate.action = some .remove →
    (∀ last ∈ genesis.lastDevice? message.device, Channel.count last.channels id ≤ 1) →
    ∀ later : List Message, (∀ next ∈ later, next.assigns message.device id = false) →
      Silent (handleEach ((handle (.updateChannels message)).on store).2 later).2
        message.device id

theorem counted_of_handle (covered : Covered store) {message : UpdateChannels} {event : Event}
    (succeeds : (handle (.updateChannels message)).on store = (.ok event, after)) :
    ∃ found next, device store message.device = .ok found ∧
      device after message.device = .ok next ∧
      ∀ id, Channel.count next.channels id =
        message.updates.foldl (fun before update => update.recount id before)
          (Channel.count found.channels id) := by
  rcases handleUpdateChannels_eq_ok (handle_eq_ok succeeds).2 with ⟨known, _, presentKnown, -⟩
  rcases covered.consists.of_device presentKnown with ⟨-, -, named, -⟩
  rcases channels_handleUpdateChannels named (handle_eq_ok succeeds).2 with
    ⟨found, next, present, presentNext, same⟩
  refine ⟨found, next, present, presentNext, ?_⟩
  intro id
  rw [same, ChannelUpdate.count_foldl_apply]

/-- Messages keep unique what the last entries of a genesis have at most once. -/
theorem unambiguous_of_importGenesis {genesis : Genesis} (messages : List Message)
    (succeeds : ((importGenesis genesis).on .empty).1 = .ok ()) :
    Unambiguous genesis (handleEach ((importGenesis genesis).on .empty).2 messages).2 := by
  have checked := check_of_importGenesis succeeds
  have covered := (Covered.importGenesis checked).2
  have loaded := (loaded_importGenesis checked).2
  have coveredNow := covered.handleEach messages
  constructor
  · intro hash stored stands distinct
    have kept := covered.handleEach_preserves_of_step
      (fun next => ∀ stored, bucket next hash = .ok stored →
        (stored.readings.map Reading.timestamp).Nodup)
      (fun coveredHere step here => step.nodup_timestamps coveredHere here)
      (fun stored here => distinct stored (loaded.of_bucket here)) messages
    exact kept stored stands
  · intro message event succeedsNow
    exact counted_of_handle coveredNow (Prod.ext succeedsNow rfl)
  · intro message event id succeedsNow removal single later unset
    have kept := (loaded.singleChannel single).handleEach covered messages
    rcases counted_of_handle coveredNow (Prod.ext succeedsNow rfl) with
      ⟨found, next, present, presentNext, counted⟩
    have gone := counted id
    rw [ChannelUpdate.foldl_recount_eq_zero (kept found present) removal] at gone
    have lacks : Lacks _ message.device id :=
      ⟨next, presentNext, Channel.find?_eq_none_iff_count.mpr gone⟩
    exact (lacks.handleEach (coveredNow.handle _) unset).silent

/-- A registry whose first device has a channel, on which a reading has arrived. -/
def beforeRemoval : Store :=
  (handleEach ((importGenesis entangled).on .empty).2
    [.addReadings ⟨⟨[1]⟩, [.new "a" 86400 ⟨0⟩]⟩]).2

/-- The channel is renamed and then removed, and after that a reading for it is passed over. -/
theorem unambiguous_beforeRemoval :
    Unambiguous entangled beforeRemoval ∧
      Silent (handleEach
        ((handle (.updateChannels ⟨⟨[9]⟩, ⟨[1]⟩, [.assign "a" "noise", .remove "a"]⟩)).on
          beforeRemoval).2
        [.addReadings ⟨⟨[1]⟩, [.new "a" 86401 ⟨0⟩]⟩]).2 ⟨[1]⟩ "a" := by
  have unambiguous : Unambiguous entangled beforeRemoval :=
    unambiguous_of_importGenesis _ (Covered.importGenesis (by decide)).1
  have succeeds : ((handle (.updateChannels
      ⟨⟨[9]⟩, ⟨[1]⟩, [.assign "a" "noise", .remove "a"]⟩)).on beforeRemoval).1 =
        .ok (.channelsUpdated ⟨[1]⟩ 1 1 0) := by decide +kernel
  refine ⟨unambiguous, unambiguous.removed _ _ "a" succeeds ?_ ?_ _ ?_⟩
  · decide
  · decide
  · decide

/-- A device with two channels of one id, and a bucket with two readings of one timestamp. -/
def ambiguous : Genesis where
  devices :=
    [⟨⟨[1]⟩, ⟨[9]⟩, "meter", [⟨"a", "temperature"⟩, ⟨"a", "humidity"⟩], []⟩]
  buckets := [⟨⟨[1]⟩, ⟨"a", "temperature"⟩, 86400, [⟨7, ⟨0⟩, ""⟩, ⟨7, ⟨1⟩, ""⟩]⟩]

/-- The second reading stays, and so does the second channel when a message removes the id. -/
theorem not_all_unambiguous :
    (¬∀ (genesis : Genesis) (messages : List Message) (hash : BucketHash) (stored : Bucket),
      ((importGenesis genesis).on .empty).1 = .ok () →
      bucket (handleEach ((importGenesis genesis).on .empty).2 messages).2 hash = .ok stored →
      (stored.readings.map Reading.timestamp).Nodup) ∧
    ¬∀ (genesis : Genesis) (messages : List Message) (message : UpdateChannels) (event : Event)
      (id : String),
      ((importGenesis genesis).on .empty).1 = .ok () →
      ((handle (.updateChannels message)).on
        (handleEach ((importGenesis genesis).on .empty).2 messages).2).1 = .ok event →
      (ChannelUpdate.last? message.updates id).map ChannelUpdate.action = some .remove →
      channel ((handle (.updateChannels message)).on
        (handleEach ((importGenesis genesis).on .empty).2 messages).2).2 message.device id =
          .error (.channelNotFound message.device id) := by
  have succeeds := (Covered.importGenesis (by decide : ambiguous.check = .ok ())).1
  constructor
  · intro distinct
    have stands : bucket (handleEach ((importGenesis ambiguous).on .empty).2 []).2
        (.ofDay ⟨[1]⟩ ⟨"a", "temperature"⟩ 86400) =
          .ok ⟨⟨[1]⟩, ⟨"a", "temperature"⟩, 86400, [⟨7, ⟨0⟩, ""⟩, ⟨7, ⟨1⟩, ""⟩]⟩ := by
      decide +kernel
    have nodup := distinct ambiguous [] _ _ succeeds stands
    simp at nodup
  · intro missing
    have last : (ChannelUpdate.last? [.remove "a"] "a").map ChannelUpdate.action =
        some .remove := by decide
    have edited : ((handle (.updateChannels ⟨⟨[9]⟩, ⟨[1]⟩, [.remove "a"]⟩)).on
        (handleEach ((importGenesis ambiguous).on .empty).2 []).2).1 =
          .ok (.channelsUpdated ⟨[1]⟩ 0 1 0) := by decide +kernel
    have left : channel ((handle (.updateChannels ⟨⟨[9]⟩, ⟨[1]⟩, [.remove "a"]⟩)).on
        (handleEach ((importGenesis ambiguous).on .empty).2 []).2).2 ⟨[1]⟩ "a" =
          .ok ⟨"a", "humidity"⟩ := by decide +kernel
    have gone := missing ambiguous [] ⟨⟨[9]⟩, ⟨[1]⟩, [.remove "a"]⟩ _ "a" succeeds edited last
    cases left.symm.trans gone

end Registry

end DeviceRegistry
