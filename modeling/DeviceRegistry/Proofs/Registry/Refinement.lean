import Mathlib
import DeviceRegistry.Proofs.Registry.Recorded
import DeviceRegistry.Proofs.Registry.WellFormed
/-!
# The registry refines a roster

A store stands for a roster if it has the same devices, with the same owners, names,
channels and logs. Every message keeps this so and answers what the roster answers,
the failures and what they leave behind included.

The simulation needs the invariant of the registry: distinct ids make a list of
channels a map, whatever their order, and the links make the logs of a new device
empty. It also needs that no two buckets claim one place.
-/

namespace DeviceRegistry.Registry

open Operation

/-- A device of a store stands for an entry of a roster. -/
structure Represents (store : Store) (address : Address) (found : Device)
    (entry : Roster.Entry) : Prop where
  owner : found.owner = entry.owner
  name : found.name = entry.name
  channels : ∀ id, (found.channel? id).map Channel.quantity = entry.channels.lookup id
  log : recorded store address = entry.log

/-- A store stands for a roster. -/
structure Refines (store : Store) (roster : Roster) : Prop where
  absent : ∀ {address}, roster.lookup address = none →
    device store address = .error (.deviceNotFound address)
  present : ∀ {address entry}, roster.lookup address = some entry →
    ∃ found, device store address = .ok found ∧ Represents store address found entry

namespace Refines

variable {store after : Store} {roster : Roster} {address : Address} {entry : Roster.Entry}

theorem empty : Refines .empty ∅ where
  absent _ := device_of_get?_eq_none (Store.get?_empty _)
  present listed := by simp at listed

/-! ## Changing one device -/

/-- Where one device is replaced, nothing is asked of the others but to stay. -/
theorem insert (refines : Refines store roster) {found : Device}
    (there : device after address = .ok found) (represents : Represents after address found entry)
    (others : ∀ other, other ≠ address →
      device after other = device store other ∧ recorded after other = recorded store other) :
    Refines after (roster.insert address entry) where
  absent {other} missing := by
    by_cases same : other = address
    · rw [same, Finmap.lookup_insert] at missing
      contradiction
    · rw [Finmap.lookup_insert_of_ne _ same] at missing
      rw [(others other same).1]
      exact refines.absent missing
  present {other otherEntry} listed := by
    by_cases same : other = address
    · subst same
      rw [Finmap.lookup_insert] at listed
      cases listed
      exact ⟨found, there, represents⟩
    · rw [Finmap.lookup_insert_of_ne _ same] at listed
      rcases others other same with ⟨sameDevice, sameLog⟩
      rcases refines.present listed with ⟨otherFound, otherThere, otherRepresents⟩
      exact ⟨otherFound, sameDevice.trans otherThere,
        { otherRepresents with log := sameLog.trans otherRepresents.log }⟩

theorem insert_self (refines : Refines store roster) (listed : roster.lookup address = some entry) :
    Refines store (roster.insert address entry) := by
  rcases refines.present listed with ⟨found, there, represents⟩
  exact refines.insert there represents fun _ _ => ⟨rfl, rfl⟩

theorem put_device (refines : Refines store roster) {stored : Device}
    (owned : stored.owner.isEmpty = false) (represents : Represents store address stored entry) :
    Refines (store.put (.device address) stored) (roster.insert address entry) := by
  have logs : recorded (store.put (.device address) stored) = recorded store :=
    recorded_congr fun hash => bucket_put_device store address stored hash
  refine refines.insert (device_put_device_self store owned)
    { represents with log := (congrFun logs address).trans represents.log }
    fun other different => ?_
  rw [device_put_device store owned, if_neg different, logs]
  exact ⟨rfl, rfl⟩

/-! ## Registering and handing over -/

theorem setOwner (refines : Refines store roster) (sound : Sound store) {message : SetOwner}
    (checked : message.check = .ok ()) :
    ((handleSetOwner message).on store).1 = (roster.setOwner message).1 ∧
      Refines ((handleSetOwner message).on store).2 (roster.setOwner message).2 := by
  rcases setOwner_check_eq_ok.mp checked with ⟨named, -, owned⟩
  rw [on_handleSetOwner store checked, Roster.setOwner]
  rcases listed : roster.lookup message.device with _ | entry
  · have absent := refines.absent listed
    rw [device?_eq_ok_none.mpr absent]
    by_cases self : message.owner = message.device
    · simp only [self, if_true, true_and]
      refine refines.put_device owned ⟨rfl, ?_, fun id => rfl, ?_⟩
      · simp [Roster.Entry.new]
      · funext channel day
        exact recorded_of_absent sound absent
    · simp only [self, if_false, true_and]
      exact refines
  · rcases refines.present listed with ⟨found, present, represents⟩
    rw [device?_eq_ok_some.mpr present]
    simp only [represents.owner]
    by_cases same : entry.owner = message.owner
    · simp only [same, if_true, true_and]
      exact refines.put_device owned { represents with owner := rfl }
    · simp only [same, if_false, true_and]
      exact refines

/-! ## Editing channels -/

end Refines

/-- The count after one more edit. -/
def EditTally.count (tally : EditTally) (update : ChannelUpdate) : EditTally :=
  match update.action with
  | .assign => { tally with assigned := tally.assigned + 1 }
  | .remove => { tally with removed := tally.removed + 1 }
  | .unknown _ => { tally with ignored := tally.ignored + 1 }

theorem EditTally.foldl_count (updates : List ChannelUpdate) (tally : EditTally) :
    updates.foldl EditTally.count tally =
      ⟨tally.assigned + updates.countP fun update => update.action = .assign,
        tally.removed + updates.countP fun update => update.action = .remove,
        tally.ignored + Roster.countUnknown updates⟩ := by
  induction updates generalizing tally with
  | nil => rfl
  | cons first rest hypothesis =>
    rw [List.foldl_cons, hypothesis]
    cases action : first.action <;>
      simp [EditTally.count, Roster.countUnknown, action, Nat.add_assoc, Nat.add_comm 1]

/-- An edit that is carried out is counted by its action. -/
theorem eq_count_of_updateCounted {store after : Store} {address : Address}
    {tally next : EditTally} {update : ChannelUpdate}
    (succeeds : (updateCounted address tally update).on store = (.ok next, after)) :
    next = tally.count update := by
  cases action : update.action with
  | assign =>
    simp only [updateCounted, action] at succeeds
    simpa only [EditTally.count, action] using eq_of_bind_pure succeeds
  | remove =>
    simp only [updateCounted, action] at succeeds
    simpa only [EditTally.count, action] using eq_of_bind_pure succeeds
  | unknown name =>
    simp only [updateCounted, action, on_pure, Prod.mk.injEq, Except.ok.injEq] at succeeds
    simp only [EditTally.count, action, succeeds.1]

theorem eq_foldl_count_of_updates {store after : Store} {address : Address}
    {updates : List ChannelUpdate} {tally : EditTally}
    (succeeds : (updates.foldlM (updateCounted address) ⟨0, 0, 0⟩).on store = (.ok tally, after)) :
    tally = updates.foldl EditTally.count ⟨0, 0, 0⟩ := by
  apply foldlM_of_ok (fun done tally _ => tally = done.foldl EditTally.count ⟨0, 0, 0⟩) _ rfl
    succeeds
  intro done update _ tally next before later counted one
  rw [eq_count_of_updateCounted one, counted, List.foldl_append]
  rfl

theorem Represents.quantity {store : Store} {address : Address} {found : Device}
    {entry : Roster.Entry} (represents : Represents store address found entry) {id : String}
    {channel : Channel} (hasChannel : found.channel? id = some channel) :
    entry.channels.lookup id = some channel.quantity := by
  rw [← represents.channels, hasChannel]
  rfl

/-- A reading of a channel that a device has meets the log of that very channel. -/
theorem Represents.receive {store : Store} {address : Address} {found : Device}
    {entry : Roster.Entry} (represents : Represents store address found entry) {tally : Tally}
    {new : NewReading} {channel : Channel}
    (hasChannel : found.channel? new.channelId = some channel) :
    entry.receive address tally new =
      if channel.id = "" then (.error (.invalidBucket (.noChannelId address)), entry)
      else if new.timestamp ∈ (entry.log channel new.reading.day).map Reading.timestamp then
        (.ok { tally with duplicates := tally.duplicates + 1 }, entry)
      else
        (.ok { tally with accepted := tally.accepted + 1 }, entry.record channel new.reading) := by
  have idSame : channel.id = new.channelId := Device.id_of_channel? hasChannel
  rw [Roster.Entry.receive, represents.quantity hasChannel, ← idSame]

/-- An edit acts on a list of channels as it acts on a map. -/
theorem Represents.edit {store : Store} {address : Address} {found : Device} {entry : Roster.Entry}
    (represents : Represents store address found entry)
    (distinct : Channel.DistinctIds found.channels) (update : ChannelUpdate) :
    Represents store address { found with channels := update.apply found.channels }
      (entry.edit update) := by
  have before := represents.channels
  simp only [Device.channel?] at before
  cases action : update.action with
  | assign =>
    simp only [Roster.Entry.edit, ChannelUpdate.apply, action]
    refine { represents with channels := fun id => ?_ }
    simp only [Device.channel?, Channel.find?_assign]
    split
    · rename_i same
      rw [same, Finmap.lookup_insert]
      rfl
    · rename_i different
      rw [Finmap.lookup_insert_of_ne _ different, before]
  | remove =>
    simp only [Roster.Entry.edit, ChannelUpdate.apply, action]
    refine { represents with channels := fun id => ?_ }
    simp only [Device.channel?, Channel.find?_remove distinct]
    split
    · rename_i same
      rw [same, Finmap.lookup_erase]
      rfl
    · rename_i different
      rw [Finmap.lookup_erase_ne different, before]
  | unknown name =>
    simp only [Roster.Entry.edit, ChannelUpdate.apply, action]
    exact represents

namespace Refines

variable {store after : Store} {roster : Roster} {address : Address} {entry : Roster.Entry}

theorem edit (refines : Refines store roster) (sound : Sound store)
    (listed : roster.lookup address = some entry) (tally : EditTally) (update : ChannelUpdate) :
    ∃ after, (updateCounted address tally update).on store = (.ok (tally.count update), after) ∧
      Sound after ∧ Refines after (roster.insert address (entry.edit update)) := by
  rcases refines.present listed with ⟨found, present, represents⟩
  rcases sound.consists.of_device present with ⟨-, idSame, named, distinct⟩
  have owned := owner_of_device present
  have edited := represents.edit distinct update
  have written := on_editDevice
    (fun found => { found with channels := update.apply found.channels }) present named owned
  rw [placed_of_id _ (by exact idSame)] at written
  have soundAfter := sound.step (.editChannels update present named)
  rw [placed_of_id _ (by exact idSame)] at soundAfter
  cases action : update.action with
  | assign =>
    simp only [ChannelUpdate.apply, action] at written soundAfter edited
    simp only [updateCounted, EditTally.count, action]
    exact ⟨_, on_bind_of_ok written, soundAfter, refines.put_device owned edited⟩
  | remove =>
    simp only [ChannelUpdate.apply, action] at written soundAfter edited
    simp only [updateCounted, EditTally.count, action]
    exact ⟨_, on_bind_of_ok written, soundAfter, refines.put_device owned edited⟩
  | unknown name =>
    refine ⟨store, ?_, sound, ?_⟩
    · simp only [updateCounted, EditTally.count, action, on_pure]
    · simp only [Roster.Entry.edit, action]
      exact refines.insert_self listed

theorem edits (updates : List ChannelUpdate) (refines : Refines store roster) (sound : Sound store)
    (listed : roster.lookup address = some entry) (tally : EditTally) :
    ∃ after, (updates.foldlM (updateCounted address) tally).on store =
        (.ok (updates.foldl EditTally.count tally), after) ∧
      Refines after (roster.insert address (updates.foldl Roster.Entry.edit entry)) := by
  induction updates generalizing store roster entry tally with
  | nil => exact ⟨store, rfl, refines.insert_self listed⟩
  | cons first rest hypothesis =>
    rcases refines.edit sound listed tally first with
      ⟨middle, first_done, soundMiddle, refinesMiddle⟩
    rcases hypothesis refinesMiddle soundMiddle (Finmap.lookup_insert _) (tally.count first) with
      ⟨after, rest_done, refinesAfter⟩
    refine ⟨after, ?_, ?_⟩
    · rw [List.foldlM_cons, on_bind_of_ok first_done, rest_done]
      rfl
    · rwa [Finmap.insert_insert] at refinesAfter

theorem updateChannels (refines : Refines store roster) (sound : Sound store)
    (message : UpdateChannels) :
    ((handleUpdateChannels message).on store).1 = (roster.updateChannels message).1 ∧
      Refines ((handleUpdateChannels message).on store).2 (roster.updateChannels message).2 := by
  rw [on_handleUpdateChannels, Roster.updateChannels]
  rcases listed : roster.lookup message.device with _ | entry
  · rw [device?_eq_ok_none.mpr (refines.absent listed)]
    exact ⟨rfl, refines⟩
  · rcases refines.present listed with ⟨found, present, represents⟩
    rw [device?_eq_ok_some.mpr present]
    simp only [represents.owner]
    by_cases same : entry.owner = message.owner
    · rcases refines.edits message.updates sound listed ⟨0, 0, 0⟩ with ⟨after, done, refinesAfter⟩
      simp only [same, if_true, done, EditTally.foldl_count, Nat.zero_add, true_and]
      exact refinesAfter
    · simp only [same, if_false, true_and]
      exact refines

/-! ## Adding readings -/

/-- A reading is added to a log, whether its bucket is new or not. -/
theorem record (refines : Refines store roster) {found next : Device} {channel : Channel}
    {reading : Reading} (represents : Represents store address found entry)
    (there : device after address = .ok next)
    (same : next.owner = found.owner ∧ next.name = found.name ∧ next.channels = found.channels)
    (others : ∀ other, other ≠ address → device after other = device store other)
    (logs : ∀ other otherChannel day, recorded after other otherChannel day =
      if other = address ∧ otherChannel = channel ∧ day = reading.day then
        recorded store other otherChannel day ++ [reading]
      else recorded store other otherChannel day) :
    Refines after (roster.insert address (entry.record channel reading)) := by
  rcases same with ⟨sameOwner, sameName, sameChannels⟩
  refine refines.insert there ⟨sameOwner.trans represents.owner, sameName.trans represents.name,
    fun id => ?_, ?_⟩ fun other different => ⟨others other different, ?_⟩
  · rw [Device.channel?, sameChannels]
    exact represents.channels id
  · funext otherChannel day
    simp only [logs, true_and, represents.log, Roster.Entry.record]
  · funext otherChannel day
    simp only [logs, different, false_and, if_false]

theorem stored_appendCounted (refines : Refines store roster)
    (listed : roster.lookup address = some entry) (tally : Tally) (new : NewReading) :
    storedCoordinates ((appendCounted address tally new).on store).2 ⊆
      storedCoordinates store ∪
        {coordinates | ∃ quantity, entry.channels.lookup new.channelId = some quantity ∧
          .of address ⟨new.channelId, quantity⟩ new.reading.instant = coordinates} := by
  rcases refines.present listed with ⟨found, present, represents⟩
  intro coordinates stands
  rcases storedCoordinates_appendCounted_subset present tally new stands with
    before | ⟨channel, has, rfl⟩
  · exact Or.inl before
  · refine Or.inr ⟨channel.quantity, represents.quantity has, ?_⟩
    rw [← Device.id_of_channel? has]

/-- A reading of a channel with a bucket is dropped, or added to that bucket. -/
theorem receive_known (refines : Refines store roster) (listed : roster.lookup address = some entry)
    (tally : Tally) {new : NewReading} {found : Device} {channel : Channel} {known : Bucket}
    (present : device store address = .ok found)
    (represents : Represents store address found entry)
    (hasChannel : found.channel? new.channelId = some channel)
    (stands : bucket store (.ofDay address channel new.reading.instant) = .ok known)
    (there : known.coordinates = .of address channel new.reading.instant)
    (checked : checkBucket known = .ok ()) :
    ((appendCounted address tally new).on store).1 = (entry.receive address tally new).1 ∧
      Refines ((appendCounted address tally new).on store).2
        (roster.insert address (entry.receive address tally new).2) := by
  have found_channel := channel_eq_ok.mpr ⟨found, present, hasChannel⟩
  have hasName : channel.id ≠ "" := by
    have channelSame : known.channel = channel := congrArg Coordinates.channel there
    rw [← channelSame]
    simpa using (checkBucket_eq_ok.mp checked).2
  have log : entry.log channel new.reading.day = known.readings := by
    rw [← represents.log, ← new.reading.toInt_instant_div, recorded_of_bucket stands there]
  rw [on_appendCounted, appendOnItsDay, represents.receive hasChannel, if_neg hasName, log]
  cases fresh : known.contains new.reading.timestamp with
  | true =>
    have duplicate : new.timestamp ∈ known.readings.map Reading.timestamp :=
      Bucket.contains_eq_true.mp fresh
    rw [on_append_of_contains found_channel stands fresh, if_pos duplicate]
    exact ⟨rfl, refines.insert_self listed⟩
  | false =>
    have newer : new.timestamp ∉ known.readings.map Reading.timestamp :=
      Bucket.contains_eq_false.mp fresh
    rw [on_append_of_known found_channel stands fresh, checked, if_neg newer]
    refine ⟨rfl, refines.record represents ?_ ⟨rfl, rfl, rfl⟩ ?_ ?_⟩
    · rw [device_put_bucket, present]
    · intro other _
      rw [device_put_bucket]
    · intro _ _ _
      exact recorded_extend stands there

/-- A reading of a channel without a bucket is refused, or opens one. -/
theorem receive_unknown (refines : Refines store roster)
    (listed : roster.lookup address = some entry) (tally : Tally) {new : NewReading}
    {found : Device} {channel : Channel} (present : device store address = .ok found)
    (represents : Represents store address found entry) (addressNamed : address.isEmpty = false)
    (hasChannel : found.channel? new.channelId = some channel)
    (missing : bucket store (.ofDay address channel new.reading.instant) =
      .error (.bucketNotFound (.ofDay address channel new.reading.instant))) :
    ((appendCounted address tally new).on store).1 = (entry.receive address tally new).1 ∧
      Refines ((appendCounted address tally new).on store).2
        (roster.insert address (entry.receive address tally new).2) := by
  have log : entry.log channel new.reading.day = [] := by
    rw [← represents.log, ← new.reading.toInt_instant_div, recorded_of_no_bucket missing]
  rw [on_appendCounted, appendOnItsDay, represents.receive hasChannel,
    on_append_of_unknown present hasChannel (bucket?_eq_ok_none.mpr missing), log,
    checkBucket_new addressNamed]
  by_cases hasName : channel.id = ""
  · simp only [hasName, if_true, true_and]
    exact refines.insert_self listed
  · simp only [hasName, if_false, List.map_nil, List.not_mem_nil, true_and]
    have owner := owner_of_device present
    have owned : (placed address
        { found with
          buckets := found.buckets ++
            [.ofDay address channel new.reading.instant] }).owner.isEmpty = false :=
      owner
    refine refines.record represents (device_put_device_self _ owned) ⟨rfl, rfl, rfl⟩ ?_ ?_
    · intro other different
      rw [device_put_device _ owned, if_neg different, device_put_bucket]
    · intro other otherChannel day
      rw [recorded_congr (bucket_put_device _ _ _)]
      exact recorded_open missing

theorem receive {occur : Set Coordinates} (noCollision : occur.InjOn Coordinates.hash)
    (refines : Refines store roster) (sound : Sound store)
    (stored : storedCoordinates store ⊆ occur) (listed : roster.lookup address = some entry)
    (tally : Tally) {new : NewReading}
    (named : ∀ quantity, entry.channels.lookup new.channelId = some quantity →
      Coordinates.of address ⟨new.channelId, quantity⟩ new.reading.instant ∈ occur) :
    ((appendCounted address tally new).on store).1 = (entry.receive address tally new).1 ∧
      Refines ((appendCounted address tally new).on store).2
        (roster.insert address (entry.receive address tally new).2) := by
  rcases refines.present listed with ⟨found, present, represents⟩
  rcases sound.consists.of_device present with ⟨-, -, addressNamed, -⟩
  rcases hasChannel : found.channel? new.channelId with _ | channel
  · have missing : Registry.channel store address new.channelId =
        .error (.channelNotFound address new.channelId) :=
      channel_eq_channelNotFound present hasChannel
    rw [on_appendCounted, appendOnItsDay, on_append_of_error missing, Roster.Entry.receive,
      ← represents.channels, hasChannel]
    exact ⟨rfl, refines.insert_self listed⟩
  · have namedHere := named channel.quantity (represents.quantity hasChannel)
    have idSame : channel.id = new.channelId := Device.id_of_channel? hasChannel
    rw [← idSame] at namedHere
    rcases sound.consists.bucket_cases (.ofDay address channel new.reading.instant) with
      ⟨known, stands, -, -, checked, -⟩ | ⟨missing, -⟩
    · have there := coordinates_of_bucket noCollision sound stored namedHere stands
      exact refines.receive_known listed tally present represents hasChannel stands there checked
    · exact refines.receive_unknown listed tally present represents addressNamed hasChannel missing

theorem receiveAll {occur : Set Coordinates} (noCollision : occur.InjOn Coordinates.hash)
    (readings : List NewReading) (refines : Refines store roster) (sound : Sound store)
    (stored : storedCoordinates store ⊆ occur) (listed : roster.lookup address = some entry)
    (tally : Tally)
    (named : ∀ new ∈ readings, ∀ quantity, entry.channels.lookup new.channelId = some quantity →
      Coordinates.of address ⟨new.channelId, quantity⟩ new.reading.instant ∈ occur) :
    ((readings.foldlM (appendCounted address) tally).on store).1 =
        (entry.receiveAll address tally readings).1 ∧
      Refines ((readings.foldlM (appendCounted address) tally).on store).2
        (roster.insert address (entry.receiveAll address tally readings).2) := by
  induction readings generalizing store roster entry tally with
  | nil => exact ⟨rfl, refines.insert_self listed⟩
  | cons first rest hypothesis =>
    have namedFirst := named first List.mem_cons_self
    rcases refines.receive noCollision sound stored listed tally namedFirst with
      ⟨answer, refinesMiddle⟩
    have soundMiddle := sound.appendCounted address tally first
    have storedMiddle := (refines.stored_appendCounted listed tally first).trans
      (Set.union_subset stored fun _ ⟨quantity, has, same⟩ => same ▸ namedFirst quantity has)
    have channels := entry.channels_receive address tally first
    rw [List.foldlM_cons, on_bind, Roster.Entry.receiveAll]
    rcases outcome : (appendCounted address tally first).on store with ⟨result, middle⟩
    rcases meaning : entry.receive address tally first with ⟨meant, next⟩
    rw [outcome] at soundMiddle storedMiddle
    rw [meaning] at channels
    rw [outcome, meaning] at answer refinesMiddle
    obtain rfl : result = meant := answer
    cases result with
    | error error => exact ⟨rfl, refinesMiddle⟩
    | ok tally =>
      have later := hypothesis refinesMiddle soundMiddle storedMiddle (Finmap.lookup_insert _) tally
        fun new member quantity has =>
          named new (List.mem_cons_of_mem _ member) quantity (channels ▸ has)
      rwa [Finmap.insert_insert] at later

theorem addReadings (refines : Refines store roster) (sound : Sound store) (message : AddReadings)
    (noCollision : (storedCoordinates store ∪ namedCoordinates store (.addReadings message)).InjOn
      Coordinates.hash) :
    ((handleAddReadings message).on store).1 = (roster.addReadings message).1 ∧
      Refines ((handleAddReadings message).on store).2 (roster.addReadings message).2 := by
  rw [on_handleAddReadings, Roster.addReadings]
  rcases listed : roster.lookup message.device with _ | entry
  · rw [device?_eq_ok_none.mpr (refines.absent listed)]
    exact ⟨rfl, refines⟩
  · rcases refines.present listed with ⟨found, present, represents⟩
    obtain ⟨answer, refinesAfter⟩ := refines.receiveAll noCollision message.readings sound
      Set.subset_union_left listed ⟨0, 0, 0⟩ fun new member quantity has => by
        rw [← represents.channels, Option.map_eq_some_iff] at has
        obtain ⟨channel, hasChannel, rfl⟩ := has
        refine Or.inr ⟨found, channel, new, member, present, hasChannel, ?_⟩
        rw [← Device.id_of_channel? hasChannel]
    rw [device?_eq_ok_some.mpr present]
    rcases outcome : (message.readings.foldlM (appendCounted message.device) ⟨0, 0, 0⟩).on store
      with ⟨result, after⟩
    rw [outcome] at answer refinesAfter
    simp only [← answer]
    cases result <;> exact ⟨rfl, refinesAfter⟩

/-! ## Looking readings up -/

/-- What is answered for a channel on a day is its log, or that there is none. -/
theorem readings {occur : Set Coordinates} (noCollision : occur.InjOn Coordinates.hash)
    (refines : Refines store roster) (sound : Sound store)
    (stored : storedCoordinates store ⊆ occur) (listed : roster.lookup address = some entry)
    {channelId quantity : String} (has : entry.channels.lookup channelId = some quantity)
    {instant : Int64} (named : Coordinates.of address ⟨channelId, quantity⟩ instant ∈ occur) :
    Registry.readings store address channelId instant =
      match entry.log ⟨channelId, quantity⟩ (instant.toInt / secondsPerDay) with
      | [] => .error (.bucketNotFound (.ofDay address ⟨channelId, quantity⟩ instant))
      | log => .ok log := by
  rcases refines.present listed with ⟨found, present, represents⟩
  rw [← represents.channels, Option.map_eq_some_iff] at has
  rcases has with ⟨channel, hasChannel, rfl⟩
  obtain rfl : channel.id = channelId := Device.id_of_channel? hasChannel
  rw [Registry.readings, channel_eq_ok.mpr ⟨found, present, hasChannel⟩, ← represents.log]
  rcases sound.consists.bucket_cases (.ofDay address channel instant) with
    ⟨known, stands, -, -, -, regular⟩ | ⟨missing, -⟩
  · have there := coordinates_of_bucket noCollision sound stored named stands
    rw [recorded_of_bucket stands there]
    cases log : known.readings with
    | nil =>
      have started := regular.started
      simp [log] at started
    | cons first rest => simp only [bind, Except.bind, stands, log, pure, Except.pure]
  · rw [recorded_of_no_bucket missing]
    simp only [bind, Except.bind, missing]

/-! ## Runs -/

theorem handle (refines : Refines store roster) (sound : Sound store) (message : Message)
    (noCollision : (storedCoordinates store ∪ namedCoordinates store message).InjOn
      Coordinates.hash) :
    ((handle message).on store).1 = (roster.handle message).1 ∧
      Refines ((handle message).on store).2 (roster.handle message).2 := by
  rw [on_handle]
  unfold Roster.handle
  rcases checked : message.check with error | ⟨⟩
  · exact ⟨rfl, refines⟩
  · cases message with
    | setOwner message => exact refines.setOwner sound checked
    | updateChannels message => exact refines.updateChannels sound message
    | addReadings message => exact refines.addReadings sound message noCollision

end Refines

/-- What messages answer one after the other, whether they fail or not. -/
def handleEach (store : Store) : List Message → List (Except RegistryError Event) × Store
  | [] => ([], store)
  | message :: rest =>
    let (result, after) := (handle message).on store
    let (results, last) := handleEach after rest
    (result :: results, last)

/-- What each message of a list keeps, all of them keep one after the other. -/
theorem handleEach_preserves (holds : Store → Prop) {store : Store} {messages : List Message}
    (start : holds store)
    (preserves : ∀ message ∈ messages, ∀ before, holds before →
      holds ((handle message).on before).2) :
    holds (handleEach store messages).2 := by
  induction messages generalizing store with
  | nil => exact start
  | cons first rest hypothesis =>
    apply hypothesis
    · exact preserves first List.mem_cons_self store start
    · intro message member
      exact preserves message (List.mem_cons_of_mem _ member)

/-- Messages do to a store what they mean for a roster. -/
theorem Refines.handleEach {store : Store} {roster : Roster} (messages : List Message)
    (refines : Refines store roster) (sound : Sound store)
    (noCollision : (occurring store messages).InjOn Coordinates.hash) :
    (handleEach store messages).1 = (roster.handleEach messages).1 ∧
      Refines (handleEach store messages).2 (roster.handleEach messages).2 := by
  induction messages generalizing store roster with
  | nil => exact ⟨rfl, refines⟩
  | cons first rest hypothesis =>
    rcases refines.handle sound first (noCollision.mono Set.subset_union_left) with
      ⟨answer, refinesMiddle⟩
    have noCollisionAfter := noCollision.mono Set.subset_union_right
    rcases hypothesis refinesMiddle (sound.handle first) noCollisionAfter with
      ⟨answers, refinesAfter⟩
    exact ⟨congrArg₂ List.cons answer answers, refinesAfter⟩

/-- A registry that starts empty answers messages as a roster does, and stands for it afterwards. -/
theorem handleEach_refines (messages : List Message)
    (noCollision : (occurring .empty messages).InjOn Coordinates.hash) :
    (handleEach .empty messages).1 = (Roster.handleEach ∅ messages).1 ∧
      Refines (handleEach .empty messages).2 (Roster.handleEach ∅ messages).2 :=
  Refines.empty.handleEach messages .empty noCollision

/-- Readings of two days, one of them twice, are followed by an edit that is not the owner's. -/
def twoDays : List Message :=
  [.setOwner ⟨⟨[1]⟩, ⟨[1]⟩, ⟨[2]⟩, ""⟩,
    .updateChannels ⟨⟨[2]⟩, ⟨[1]⟩, [.assign "a" "temperature", .remove "b"]⟩,
    .addReadings ⟨⟨[1]⟩, [.new "a" 86400 ⟨0⟩, .new "a" 7 ⟨0⟩, .new "a" 86400 ⟨1⟩,
      .new "b" 7 ⟨0⟩]⟩,
    .updateChannels ⟨⟨[1]⟩, ⟨[1]⟩, [.remove "a"]⟩]

theorem handleEach_refines_twoDays :
    (handleEach .empty twoDays).1 =
        [.ok (.deviceCreated ⟨[1]⟩ ⟨[2]⟩), .ok (.channelsUpdated ⟨[1]⟩ 1 1 0),
          .ok (.readingsAdded ⟨[1]⟩ 2 1 1), .error (.unauthorized .notOwner)] ∧
      Refines (handleEach .empty twoDays).2 (Roster.handleEach ∅ twoDays).2 := by
  have noCollision : (occurring .empty twoDays).InjOn Coordinates.hash := by
    apply injOn_of_listed (occurringList .empty twoDays)
    · intro coordinates occurs
      rcases stored_or_mem_occurringList occurs with stands | listed
      · rw [storedCoordinates_empty] at stands
        exact absurd stands (Set.notMem_empty _)
      · exact listed
    · decide +kernel
  rcases handleEach_refines twoDays noCollision with ⟨answers, refines⟩
  exact ⟨answers.trans (by decide), refines⟩

end DeviceRegistry.Registry
