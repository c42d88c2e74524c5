import Mathlib
import DeviceRegistry.Proofs.Registry.Steps
/-!
# What can be asked of a registry

Messages are checked before they are carried out. The operations below them can be called as
well, each for a single change. They are listed here once, and what may be asked of a registry
is said of this list. A call that stores an entry just as it is given can break any promise, so
it is not asked for. Of the other calls some can make what messages never make: two channels of
one id, a bucket that begins with a reading of another day, a hash that no bucket has.

What is asked for has one of a few effects on the store, whatever it is and whether it succeeds
or not. So an invariant has to be looked at for these effects only.
-/

namespace DeviceRegistry.Registry

open Operation

/-! ## Calls -/

/-- What can be called of a registry for a single change, by what it returns. -/
inductive Call : Type → Type
  | saveDevice (address : Address) (stored : Device) : Call Unit
  | deleteDevice (address : Address) : Call Unit
  | addChannel (address : Address) (channel : Channel) : Call Unit
  | assignChannel (address : Address) (channel : Channel) : Call Unit
  | removeChannel (address : Address) (channelId : String) : Call Unit
  | assignOwner (address owner : Address) : Call Unit
  | addBucketHash (address : Address) (hash : BucketHash) : Call Unit
  | saveBucket (stored : Bucket) : Call BucketHash
  | append (address : Address) (channelId : String) (instant : Int64) (reading : Reading) :
    Call Appended
  | appendOnItsDay (address : Address) (channelId : String) (reading : Reading) : Call Appended
  /-- A message is called past its own check here. -/
  | setOwner (message : SetOwner) : Call Event
  | updateChannels (message : UpdateChannels) : Call Event

namespace Call

/-- The operation that is called. -/
def operation : {α : Type} → Call α → Operation α
  | _, saveDevice address stored => Registry.saveDevice address stored
  | _, deleteDevice address => Registry.deleteDevice address
  | _, addChannel address channel => Registry.addChannel address channel
  | _, assignChannel address channel => Registry.assignChannel address channel
  | _, removeChannel address channelId => Registry.removeChannel address channelId
  | _, assignOwner address owner => Registry.assignOwner address owner
  | _, addBucketHash address hash => Registry.addBucketHash address hash
  | _, saveBucket stored => Registry.saveBucket stored
  | _, append address channelId instant reading =>
    Registry.append address channelId instant reading
  | _, appendOnItsDay address channelId reading =>
    Registry.appendOnItsDay address channelId reading
  | _, setOwner message => handleSetOwner message
  | _, updateChannels message => handleUpdateChannels message

/-- Whether a call keeps every bucket on the list of its device, as all do but two of them. -/
def keepsLinks {α : Type} : Call α → Bool
  | saveDevice _ _ => false
  | saveBucket _ => false
  | _ => true

/-- Whether a call does no more than messages do, or deletes a device. -/
def keepsOrder {α : Type} : Call α → Bool
  | addChannel _ _ => false
  | addBucketHash _ _ => false
  | append _ _ _ _ => false
  | call => call.keepsLinks

end Call

/-! ## Requests -/

/-- What can be asked of a registry: messages, and calls that keep its links. -/
inductive Request where
  | handle (message : Message)
  | call {α : Type} (call : Call α) (linked : call.keepsLinks = true)

namespace Request

/-- The store after a request, whether it succeeds or not. -/
def after (store : Store) : Request → Store
  | handle message => ((Registry.handle message).on store).2
  | call called _ => (called.operation.on store).2

def keepsOrder : Request → Bool
  | handle _ => true
  | call called _ => called.keepsOrder

end Request

/-- A request that keeps all that messages promise. -/
structure Action where
  request : Request
  orderly : request.keepsOrder = true

/-- The store after an action, whether it succeeds or not. -/
def Action.after (store : Store) (action : Action) : Store :=
  action.request.after store

/-! ## Effects -/

/-- What an action makes of a store. -/
inductive OrderlyEffect (store : Store) : Store → Prop
  /-- Readings arrive only for devices that were registered before the first of the steps. -/
  | steps {permitted : Mark → Prop} {after : Store} (steps : Steps permitted store after)
      (registered : ∀ coordinates, permitted (.reading coordinates) →
        ∃ home, device store coordinates.device = .ok home) :
      OrderlyEffect store after
  | deletion {address : Address} {found : Device} (present : device store address = .ok found) :
      OrderlyEffect store (store.dropAll (keysOf address found))

/-- What a request makes of a store. -/
inductive Effect (store : Store) : Store → Prop
  | orderly {after : Store} (effect : OrderlyEffect store after) : Effect store after
  /-- A device is written anew, and it lists what it has listed before. -/
  | revision {address : Address} {found stored : Device}
      (present : device store address = .ok found) (sameId : stored.id = found.id)
      (sameOwner : stored.owner = found.owner) (keeps : found.buckets ⊆ stored.buckets) :
      Effect store (store.put (.device address) (placed address stored))
  /-- A reading arrives for any instant, which need not be its own. -/
  | arrival {address : Address} {channelId : String} {instant : Int64} {reading : Reading}
      {after : Store} (arrival : Arrival store address channelId instant reading after) :
      Effect store after

variable {store : Store} {address : Address}

theorem OrderlyEffect.unchanged (store : Store) : OrderlyEffect store store := by
  have none : Steps (fun _ => False) store store := .refl store
  exact .steps none nofun

theorem Step.orderlyEffect {mark : Mark} {after : Store} (step : Step store mark after)
    (registered : ∀ coordinates, mark = .reading coordinates →
      ∃ home, device store coordinates.device = .ok home) : OrderlyEffect store after := by
  have single : Steps (mark = ·) store after := step.steps rfl
  exact .steps single registered

/-- A message brings readings only for a device that it has found. -/
theorem Steps.orderlyEffect {message : Message} {after : Store}
    (steps : Steps (permits store message) store after) : OrderlyEffect store after := by
  apply OrderlyEffect.steps steps
  intro coordinates named
  cases message with
  | setOwner message => exact named.elim
  | updateChannels message => exact named.elim
  | addReadings message =>
    rcases named with ⟨found, channel, new, -, present, -, rfl⟩
    exact ⟨found, present⟩

theorem orderlyEffect_editChannels (store : Store) (address : Address) (update : ChannelUpdate) :
    OrderlyEffect store ((editDevice address fun found =>
      { found with channels := update.apply found.channels }).on store).2 := by
  rcases after_editDevice (fun found => { found with channels := update.apply found.channels })
      (fun _ => rfl) store address with unchanged | ⟨found, present, named, written⟩
  · rw [unchanged]
    exact .unchanged store
  · rw [written]
    exact Step.orderlyEffect (.editChannels update present named) nofun

theorem orderlyEffect_deleteDevice (store : Store) (address : Address) :
    OrderlyEffect store ((deleteDevice address).on store).2 := by
  cases present : device store address with
  | error error =>
    rw [on_deleteDevice_of_error present]
    exact .unchanged store
  | ok found =>
    rw [on_deleteDevice present]
    exact .deletion present

/-- A call that keeps order does what messages do, or it deletes a device. -/
theorem Call.orderlyEffect {α : Type} (store : Store) (call : Call α)
    (orderly : call.keepsOrder = true) : OrderlyEffect store (call.operation.on store).2 := by
  cases call with
  | deleteDevice address => exact orderlyEffect_deleteDevice store address
  | assignChannel address channel =>
    exact orderlyEffect_editChannels store address (.assign channel.id channel.quantity)
  | removeChannel address channelId =>
    exact orderlyEffect_editChannels store address (.remove channelId)
  | assignOwner address owner =>
    rw [operation]
    rcases after_assignOwner store address owner with unchanged | ⟨authority, step⟩
    · rw [unchanged]
      exact .unchanged store
    · exact step.orderlyEffect nofun
  | appendOnItsDay address channelId reading =>
    rw [operation]
    rcases after_appendOnItsDay store address channelId reading with
      unchanged | ⟨found, channel, present, -, step⟩
    · rw [unchanged]
      exact .unchanged store
    · apply step.orderlyEffect
      intro coordinates here
      cases here
      exact ⟨found, present⟩
  | setOwner message => exact (steps_of_handleUnchecked store (.setOwner message)).orderlyEffect
  | updateChannels message =>
    exact (steps_of_handleUnchecked store (.updateChannels message)).orderlyEffect
  | _ => cases orderly

theorem effect_editDevice (store : Store) (address : Address) {edit : Device → Device}
    (keepsId : ∀ found, (edit found).id = found.id)
    (keepsOwner : ∀ found, (edit found).owner = found.owner)
    (keepsBuckets : ∀ found, found.buckets ⊆ (edit found).buckets) :
    Effect store ((editDevice address edit).on store).2 := by
  rcases after_editDevice edit keepsOwner store address with
    unchanged | ⟨found, present, -, written⟩
  · rw [unchanged]
    exact .orderly (.unchanged store)
  · rw [written]
    exact .revision present (keepsId found) (keepsOwner found) (keepsBuckets found)

theorem Call.effect {α : Type} (store : Store) (call : Call α) (linked : call.keepsLinks = true) :
    Effect store (call.operation.on store).2 := by
  cases orderly : call.keepsOrder with
  | true => exact .orderly (call.orderlyEffect store orderly)
  | false =>
    cases call with
    | addChannel address channel => apply effect_editDevice store address <;> simp
    | addBucketHash address hash => apply effect_editDevice store address <;> simp
    | append address channelId instant reading =>
      exact .arrival (arrival_of_append store address channelId instant reading)
    | saveDevice | saveBucket => cases linked
    | _ => cases orderly

theorem Request.effect (store : Store) (request : Request) : Effect store (request.after store) := by
  cases request with
  | handle message => exact .orderly (steps_of_handle store message).orderlyEffect
  | call call linked => exact call.effect store linked

theorem Action.effect (store : Store) (action : Action) :
    OrderlyEffect store (action.after store) := by
  rcases action with ⟨message | ⟨call, -⟩, orderly⟩
  · exact (steps_of_handle store message).orderlyEffect
  · exact call.orderlyEffect store orderly

end DeviceRegistry.Registry
