import Mathlib
import DeviceRegistry.Proofs.Registry.Coverage
import DeviceRegistry.Proofs.Registry.Reception
/-!
# Messages about different devices commute

A message looks at the entry of its device and at the buckets that its readings name, and
it writes nowhere else. Two messages whose keys are disjoint therefore do not notice each
other, whatever they answer and wherever they stop: neither the answers nor the final
store depend on their order.

An operation is compared with itself on another store that agrees on the keys in
question. Which buckets it will ask for is decided by what it finds on the way, so the
comparison is made at one store at a time, and it follows the operation from one bind to
the next.
-/

namespace DeviceRegistry

namespace Operation

variable {α β : Type} {keys : Set Bytes} {store : Store}

/-- From a store on, an operation neither looks nor writes beyond some keys. -/
def Confined (keys : Set Bytes) (operation : Operation α) (store : Store) : Prop :=
  ∀ other : Store, Set.EqOn other.get? store.get? keys →
    (operation.on other).1 = (operation.on store).1 ∧
      Set.EqOn (operation.on other).2.get? (operation.on store).2.get? keys ∧
        Set.EqOn (operation.on other).2.get? other.get? keysᶜ

theorem confined_liftExcept (answer : Except RegistryError α) :
    Confined keys (liftExcept answer) store := by
  intro other agree
  simp [agree, Set.eqOn_refl]

theorem confined_pure (value : α) : Confined keys (pure value) store :=
  confined_liftExcept (.ok value)

theorem confined_throw (error : RegistryError) :
    Confined keys (throw error : Operation α) store := by
  intro other agree
  simp [agree, Set.eqOn_refl]

/-- What comes after a check need be confined only where the check is passed. -/
theorem confined_unless {refused : Prop} [Decidable refused] {error : RegistryError}
    {next : Unit → Operation α} (passed : ¬refused → Confined keys (next ()) store) :
    Confined keys (if refused then throw error >>= next else next ()) store := by
  by_cases refuse : refused
  · rw [if_pos refuse]
    exact confined_throw error
  · rw [if_neg refuse]
    exact passed refuse

/-- A question is confined if its answer does not depend on other keys. -/
theorem confined_ask {question : Store → Except RegistryError α}
    (depends : ∀ other : Store, Set.EqOn other.get? store.get? keys →
      question other = question store) : Confined keys (ask question) store := by
  intro other agree
  simp [agree, depends other agree, Set.eqOn_refl]

theorem confined_write [Binary.Codec α] {key : StoreKey} (within : key.bytes ∈ keys) (value : α) :
    Confined keys (write key value) store := by
  intro other agree
  refine ⟨rfl, ?_, ?_⟩
  · intro bytes member
    simp only [on_write, Store.put, Store.get?_insert, agree member]
  · intro bytes outside
    have different : bytes ≠ key.bytes := by
      rintro rfl
      exact outside within
    simp only [on_write, Store.put, Store.get?_insert, different, if_false]

theorem Confined.bind {operation : Operation α} {next : α → Operation β}
    (first : Confined keys operation store)
    (rest : ∀ value, (operation.on store).1 = .ok value →
      Confined keys (next value) (operation.on store).2) :
    Confined keys (operation >>= next) store := by
  intro other agree
  rcases first other agree with ⟨answer, agreeNext, outside⟩
  rw [on_bind, on_bind]
  rcases onOther : operation.on other with ⟨result, otherNext⟩
  rcases onStore : operation.on store with ⟨storeResult, storeNext⟩
  rw [onOther, onStore] at answer agreeNext
  rw [onOther] at outside
  obtain rfl : result = storeResult := answer
  cases result with
  | error error => exact ⟨rfl, agreeNext, outside⟩
  | ok value =>
    have restHere := rest value (by rw [onStore])
    rw [onStore] at restHere
    rcases restHere otherNext agreeNext with ⟨answerRest, agreeRest, outsideRest⟩
    exact ⟨answerRest, agreeRest, outsideRest.trans outside⟩

theorem Confined.bind_pure {operation : Operation α} (confined : Confined keys operation store)
    (result : α → β) : Confined keys (operation >>= fun value => pure (result value)) store := by
  apply confined.bind
  intro value _
  exact confined_pure _

/-- An operation is confined if its result is computed from that of a confined one. -/
theorem Confined.of_map {operation : Operation α} {outcome : Operation β}
    (map : Except RegistryError α → Except RegistryError β)
    (same : ∀ store, outcome.on store = (map (operation.on store).1, (operation.on store).2))
    (confined : Confined keys operation store) : Confined keys outcome store := by
  intro other agree
  rcases confined other agree with ⟨answer, agreeNext, outside⟩
  simp only [same, answer]
  exact ⟨trivial, agreeNext, outside⟩

/-- A loop is confined if each pass is, under an invariant of the loop. -/
theorem confined_foldlM (holds : Store → Prop) {body : β → α → Operation β} {items : List α}
    (each : ∀ tally, ∀ item ∈ items, ∀ before, holds before →
      Confined keys (body tally item) before ∧ holds ((body tally item).on before).2)
    (start : holds store) (tally : β) : Confined keys (items.foldlM body tally) store := by
  induction items generalizing store tally with
  | nil => exact confined_pure tally
  | cons first rest hypothesis =>
    rcases each tally first List.mem_cons_self store start with ⟨confined, holdsNext⟩
    rw [List.foldlM_cons]
    apply confined.bind
    intro next succeeds
    apply hypothesis _ holdsNext
    intro tally item member
    exact each tally item (List.mem_cons_of_mem _ member)

/-- From a store on, neither the answers of two operations nor their effect depends on the order. -/
structure Independent (first : Operation α) (second : Operation β) (store : Store) : Prop where
  answer_first : (first.on (second.on store).2).1 = (first.on store).1
  answer_second : (second.on (first.on store).2).1 = (second.on store).1
  after : (second.on (first.on store).2).2 = (first.on (second.on store).2).2

theorem Confined.independent {first : Operation α} {second : Operation β} {others : Set Bytes}
    (confinedFirst : Confined keys first store) (confinedSecond : Confined others second store)
    (apart : Disjoint keys others) : Independent first second store := by
  rcases confinedFirst store (Set.eqOn_refl _ _) with ⟨-, -, firstOutside⟩
  rcases confinedSecond store (Set.eqOn_refl _ _) with ⟨-, -, secondOutside⟩
  have firstUnseen : Set.EqOn (first.on store).2.get? store.get? others :=
    firstOutside.mono apart.subset_compl_left
  have secondUnseen : Set.EqOn (second.on store).2.get? store.get? keys :=
    secondOutside.mono apart.subset_compl_right
  rcases confinedFirst _ secondUnseen with ⟨sameFirst, agreeFirst, keptBySecond⟩
  rcases confinedSecond _ firstUnseen with ⟨sameSecond, agreeSecond, keptByFirst⟩
  refine ⟨sameFirst, sameSecond, ?_⟩
  apply Store.ext_get?
  intro bytes
  by_cases inFirst : bytes ∈ keys
  · have notSecond : bytes ∈ othersᶜ := apart.subset_compl_right inFirst
    exact (keptByFirst notSecond).trans (agreeFirst inFirst).symm
  · by_cases inSecond : bytes ∈ others
    · exact (agreeSecond inSecond).trans (keptBySecond inFirst).symm
    · exact ((keptByFirst inSecond).trans (firstOutside inFirst)).trans
        ((keptBySecond inFirst).trans (secondOutside inSecond)).symm

end Operation

namespace Registry

open Operation

variable {keys : Set Bytes} {store : Store} {address : Address}

/-! ## Operations on one device -/

theorem device_of_eqOn (within : (StoreKey.device address).bytes ∈ keys) {other : Store}
    (agree : Set.EqOn other.get? store.get? keys) :
    device other address = device store address :=
  device_congr (agree within)

theorem confined_ask_device (within : (StoreKey.device address).bytes ∈ keys) :
    Confined keys (ask (device · address)) store := by
  apply confined_ask
  intro other agree
  exact device_of_eqOn within agree

theorem confined_ask_device? (within : (StoreKey.device address).bytes ∈ keys) :
    Confined keys (ask (device? · address)) store := by
  apply confined_ask
  intro other agree
  simp only [device?, device_of_eqOn within agree]

theorem confined_ask_bucket? {hash : BucketHash} (within : (StoreKey.bucket hash).bytes ∈ keys) :
    Confined keys (ask (bucket? · hash)) store := by
  apply confined_ask
  intro other agree
  simp only [bucket?, bucket_congr (agree within)]

theorem confined_saveDevice (within : (StoreKey.device address).bytes ∈ keys) (stored : Device) :
    Confined keys (saveDevice address stored) store := by
  apply (confined_liftExcept _).bind
  intro checked _
  exact confined_write within _

theorem confined_editDevice (within : (StoreKey.device address).bytes ∈ keys)
    (edit : Device → Device) : Confined keys (editDevice address edit) store := by
  apply (confined_ask_device within).bind
  intro found _
  exact confined_saveDevice within _

theorem confined_assignOwner (within : (StoreKey.device address).bytes ∈ keys) (owner : Address) :
    Confined keys (assignOwner address owner) store := by
  apply (confined_ask_device? within).bind
  rintro (_ | found) _
  · exact confined_saveDevice within _
  · exact confined_saveDevice within _

theorem confined_knownDevice (within : (StoreKey.device address).bytes ∈ keys) :
    Confined keys (knownDevice address) store := by
  apply (confined_ask_device? within).bind
  rintro (_ | found) _
  · exact confined_throw _
  · exact confined_pure _

theorem confined_handleSetOwner {message : SetOwner}
    (within : (StoreKey.device message.device).bytes ∈ keys) :
    Confined keys (handleSetOwner message) store := by
  apply (confined_ask_device? within).bind
  rintro (_ | found) _
  · apply confined_unless
    intro _
    exact (confined_saveDevice within _).bind_pure _
  · apply confined_unless
    intro _
    exact (confined_assignOwner within _).bind_pure _

theorem confined_updateCounted (within : (StoreKey.device address).bytes ∈ keys)
    (tally : EditTally) (update : ChannelUpdate) :
    Confined keys (updateCounted address tally update) store := by
  cases action : update.action with
  | assign =>
    simp only [updateCounted, action]
    exact (confined_editDevice within _).bind_pure _
  | remove =>
    simp only [updateCounted, action]
    exact (confined_editDevice within _).bind_pure _
  | unknown name =>
    simp only [updateCounted, action]
    exact confined_pure _

theorem confined_handleUpdateChannels {message : UpdateChannels}
    (within : (StoreKey.device message.device).bytes ∈ keys) :
    Confined keys (handleUpdateChannels message) store := by
  apply (confined_knownDevice within).bind
  intro found _
  apply confined_unless
  intro _
  apply Confined.bind_pure
  apply confined_foldlM fun _ => True
  · intro tally update _ before _
    exact ⟨confined_updateCounted within tally update, trivial⟩
  · trivial

/-! ## Readings -/

theorem confined_saveBucket {stored : Bucket}
    (within : (StoreKey.bucket stored.hash).bytes ∈ keys) :
    Confined keys (saveBucket stored) store := by
  apply (confined_liftExcept _).bind
  intro checked _
  exact (confined_write within _).bind_pure _

/-- A reading stays with its device and with the bucket of the channel that it finds there. -/
theorem confined_append {deviceLaw : Device → Prop} {bucketLaw : Bucket → Prop}
    (consists : Consists deviceLaw bucketLaw store) {channelId : String} {instant : Int64}
    (within : (StoreKey.device address).bytes ∈ keys)
    (named : ∀ channel, Registry.channel store address channelId = .ok channel →
      (StoreKey.bucket (.ofDay address channel instant)).bytes ∈ keys) (reading : Reading) :
    Confined keys (append address channelId instant reading) store := by
  apply Confined.bind
  · apply confined_ask
    intro other agree
    simp only [Registry.channel, device_of_eqOn within agree]
  · intro channel listed
    rw [on_ask] at listed ⊢
    have bucketWithin := named channel listed
    apply (confined_ask_bucket? bucketWithin).bind
    intro known asked
    rw [on_ask] at asked ⊢
    -- What is written back goes where it was looked up.
    have place : (known.getD (.new address channel instant)).hash =
        .ofDay address channel instant := by
      cases known with
      | none => rfl
      | some known => exact (consists.of_bucket (bucket?_eq_ok_some.mp asked)).2.1
    generalize known.getD (.new address channel instant) = target at place ⊢
    by_cases contained : target.contains reading.timestamp = true
    · simp only [contained, if_true]
      exact confined_pure _
    · simp only [contained, Bool.false_eq_true, if_false]
      apply Confined.bind
      · apply confined_saveBucket
        rw [hash_push, place]
        exact bucketWithin
      · intro hash _
        cases known with
        | none => exact (confined_editDevice within _).bind_pure _
        | some known => exact confined_pure _

theorem confined_appendCounted {deviceLaw : Device → Prop} {bucketLaw : Bucket → Prop}
    (consists : Consists deviceLaw bucketLaw store) {new : NewReading}
    (within : (StoreKey.device address).bytes ∈ keys)
    (named : ∀ channel, Registry.channel store address new.channelId = .ok channel →
      (StoreKey.bucket (.ofDay address channel new.reading.instant)).bytes ∈ keys)
    (tally : Tally) : Confined keys (appendCounted address tally new) store := by
  have appended := confined_append consists within named new.reading
  apply appended.of_map tally.after
  intro before
  exact on_appendCounted_eq_after before address tally new

/-! ## Messages -/

/-- The keys that a message may come to look at: those of its device and of the buckets it names. -/
def footprint (store : Store) (message : Message) : Set Bytes :=
  insert (StoreKey.device message.device).bytes
    ((fun coordinates => (StoreKey.bucket coordinates.hash).bytes) ''
      namedCoordinates store message)

theorem confined_handleAddReadings (covered : Covered store) (message : AddReadings) :
    Confined (footprint store (.addReadings message)) (handleAddReadings message) store := by
  have within : (StoreKey.device message.device).bytes ∈ footprint store (.addReadings message) :=
    Set.mem_insert _ _
  apply (confined_knownDevice within).bind
  intro found known
  rw [on_knownDevice] at known ⊢
  rcases looked : device? store message.device with error | _ | other <;> rw [looked] at known
  · contradiction
  · contradiction
  · cases known
    have present := device?_eq_ok_some.mp looked
    apply Confined.bind_pure
    -- Readings change no channels, so the message names the same buckets throughout.
    apply confined_foldlM fun before => Covered before ∧
      Offers before message.device found.channels
    · rintro tally new member before ⟨coveredBefore, offers⟩
      rcases offers with ⟨next, presentNext, sameChannels⟩
      constructor
      · apply confined_appendCounted coveredBefore.consists within
        intro channel listed
        rcases channel_eq_ok.mp listed with ⟨other, presentOther, has⟩
        cases presentOther.symm.trans presentNext
        apply Set.mem_insert_of_mem
        refine ⟨_, ⟨found, channel, new, member, present, ?_, rfl⟩, rfl⟩
        rw [Device.channel?, ← sameChannels]
        exact has
      · constructor
        · exact coveredBefore.appendCounted message.device tally new
        · exact Offers.appendCounted ⟨next, presentNext, sameChannels⟩ message.device tally new
    · exact ⟨covered, found, present, rfl⟩

theorem confined_handle (covered : Covered store) (message : Message) :
    Confined (footprint store message) (handle message) store := by
  apply (confined_liftExcept _).bind
  intro checked _
  rw [on_liftExcept]
  cases message with
  | setOwner message => exact confined_handleSetOwner (Set.mem_insert _ _)
  | updateChannels message => exact confined_handleUpdateChannels (Set.mem_insert _ _)
  | addReadings message => exact confined_handleAddReadings covered message

theorem device_of_namedCoordinates {message : Message} {coordinates : Coordinates}
    (named : coordinates ∈ namedCoordinates store message) :
    coordinates.device = message.device := by
  cases message with
  | setOwner message => contradiction
  | updateChannels message => contradiction
  | addReadings message =>
    rcases named with ⟨found, channel, new, member, present, listed, rfl⟩
    rfl

/-- Buckets of different devices lie apart where their hashes do. -/
theorem disjoint_footprint {first second : Message} (different : first.device ≠ second.device)
    (noCollision : (namedCoordinates store first ∪ namedCoordinates store second).InjOn
      Coordinates.hash) :
    Disjoint (footprint store first) (footprint store second) := by
  rw [Set.disjoint_left]
  rintro bytes (rfl | ⟨coordinates, named, rfl⟩) (same | ⟨others, namedToo, same⟩)
  · exact different (by simpa using StoreKey.bytes_injective same)
  · simpa using StoreKey.bytes_injective same
  · simpa using StoreKey.bytes_injective same
  · have hashSame : others.hash = coordinates.hash := by
      simpa using StoreKey.bytes_injective same
    have coordinatesSame := noCollision (Or.inr namedToo) (Or.inl named) hashSame
    apply different
    rw [← device_of_namedCoordinates named, ← device_of_namedCoordinates namedToo,
      coordinatesSame]

theorem injOn_namedCoordinates {first second : AddReadings} {found other : Device}
    (present : device store first.device = .ok found)
    (presentToo : device store second.device = .ok other)
    (distinct :
      ((coordinatesOf found first ++ coordinatesOf other second).map Coordinates.hash).Nodup) :
    (namedCoordinates store (.addReadings first) ∪
      namedCoordinates store (.addReadings second)).InjOn Coordinates.hash := by
  apply injOn_of_listed (coordinatesOf found first ++ coordinatesOf other second)
  · rintro coordinates (named | named)
    · exact List.mem_append_left _ (mem_coordinatesOf named present)
    · exact List.mem_append_right _ (mem_coordinatesOf named presentToo)
  · rwa [distinct.of_map.dedup]

/-! ## Main result -/

/-- Messages about different devices have the same answers and the same effect in either order. -/
theorem independent_handle_of_reached (reached : Reached store) {first second : Message}
    (different : first.device ≠ second.device)
    (noCollision : (namedCoordinates store first ∪ namedCoordinates store second).InjOn
      Coordinates.hash) :
    Independent (handle first) (handle second) store :=
  (confined_handle reached.covered first).independent (confined_handle reached.covered second)
    (disjoint_footprint different noCollision)

/-- Two devices that own each other, the first one with a channel that no bucket may have. -/
def neighbours : Store :=
  [.handle (.setOwner ⟨⟨[1]⟩, ⟨[1]⟩, ⟨[2]⟩, ""⟩), .handle (.setOwner ⟨⟨[2]⟩, ⟨[2]⟩, ⟨[1]⟩, ""⟩),
    .handle (.updateChannels ⟨⟨[2]⟩, ⟨[1]⟩, [.assign "a" "temperature", .assign "" "force"]⟩),
    .handle (.updateChannels ⟨⟨[1]⟩, ⟨[2]⟩, [.assign "a" "temperature"]⟩)].foldl
      Request.after .empty

/-- The first message fails after its first reading. -/
theorem independent_neighbours :
    ((handle (.addReadings ⟨⟨[1]⟩, [.new "a" 86400 ⟨0⟩, .new "" 86400 ⟨0⟩]⟩)).on neighbours).1 =
        .error (.invalidBucket (.noChannelId ⟨[1]⟩)) ∧
      Independent (handle (.addReadings ⟨⟨[1]⟩, [.new "a" 86400 ⟨0⟩, .new "" 86400 ⟨0⟩]⟩))
        (handle (.addReadings ⟨⟨[2]⟩, [.new "a" 86400 ⟨0⟩]⟩)) neighbours := by
  have first : device neighbours ⟨[1]⟩ =
      .ok ⟨⟨[1]⟩, ⟨[2]⟩, "01", [⟨"a", "temperature"⟩, ⟨"", "force"⟩], []⟩ := by decide +kernel
  have second : device neighbours ⟨[2]⟩ =
      .ok ⟨⟨[2]⟩, ⟨[1]⟩, "02", [⟨"a", "temperature"⟩], []⟩ := by decide +kernel
  refine ⟨by decide +kernel, independent_handle_of_reached (Reached.empty.foldl _) (by decide) ?_⟩
  apply injOn_namedCoordinates
  · exact first
  · exact second
  · decide +kernel

end Registry

end DeviceRegistry
