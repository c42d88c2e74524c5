import Mathlib
import DeviceRegistry.Proofs.Registry.Coverage
import DeviceRegistry.Proofs.Registry.Refinement
/-!
# Messages only add

Every write replaces a whole entry, so nothing is lost only if what is written back is
what was read, with something appended. For a device the list of buckets may grow, and
its owner and its channels may change; for a bucket the list of readings may grow.

It matters here where a bucket is written back. It is found under the hash of a channel
as the device has it now, and written under the hash of its own fields, and these two
agree in every store that a registry goes through.
-/

namespace DeviceRegistry.Registry

/-- Whatever a store holds, a later store holds too, and lists have only grown at their ends. -/
structure Grows (store after : Store) : Prop where
  device : ∀ {address found}, device store address = .ok found →
    ∃ next, device after address = .ok next ∧ next.id = found.id ∧ next.name = found.name ∧
      found.buckets <+: next.buckets
  bucket : ∀ {hash stored}, bucket store hash = .ok stored →
    ∃ next, bucket after hash = .ok next ∧ next.device = stored.device ∧
      next.channel = stored.channel ∧ next.instant = stored.instant ∧
      stored.readings <+: next.readings

namespace Grows

variable {store middle after : Store} {address : Address}

theorem refl (store : Store) : Grows store store where
  device {_ found} present := ⟨found, present, rfl, rfl, List.prefix_refl _⟩
  bucket {_ stored} stands := ⟨stored, stands, rfl, rfl, rfl, List.prefix_refl _⟩

theorem trans (first : Grows store middle) (second : Grows middle after) :
    Grows store after where
  device {address found} present := by
    rcases first.device present with ⟨next, presentNext, sameId, sameName, more⟩
    rcases second.device presentNext with ⟨last, presentLast, sameIdToo, sameNameToo, evenMore⟩
    exact ⟨last, presentLast, sameIdToo.trans sameId, sameNameToo.trans sameName,
      more.trans evenMore⟩
  bucket {hash stored} stands := by
    rcases first.bucket stands with ⟨next, standsNext, device, channel, instant, more⟩
    rcases second.bucket standsNext with
      ⟨last, standsLast, deviceToo, channelToo, instantToo, evenMore⟩
    exact ⟨last, standsLast, deviceToo.trans device, channelToo.trans channel,
      instantToo.trans instant, more.trans evenMore⟩

/-! ## Writes -/

theorem put_device {stored : Device} (owned : stored.owner.isEmpty = false)
    (keeps : ∀ found, Registry.device store address = .ok found →
      stored.id = found.id ∧ stored.name = found.name ∧ found.buckets <+: stored.buckets) :
    Grows store (store.put (.device address) stored) where
  device {other found} present := by
    rw [device_put_device store owned]
    by_cases here : other = address
    · subst here
      exact ⟨stored, if_pos rfl, keeps found present⟩
    · exact ⟨found, by rw [if_neg here, present], rfl, rfl, List.prefix_refl _⟩
  bucket {hash found} stands :=
    ⟨found, by rw [bucket_put_device, stands], rfl, rfl, rfl, List.prefix_refl _⟩

theorem put_bucket {hash : BucketHash} {stored : Bucket}
    (keeps : ∀ known, Registry.bucket store hash = .ok known →
      stored.device = known.device ∧ stored.channel = known.channel ∧
        stored.instant = known.instant ∧ known.readings <+: stored.readings) :
    Grows store (store.put (.bucket hash) stored) where
  device {other found} present :=
    ⟨found, by rw [device_put_bucket, present], rfl, rfl, List.prefix_refl _⟩
  bucket {other found} stands := by
    rw [bucket_put_bucket]
    by_cases here : other = hash
    · subst here
      exact ⟨stored, if_pos rfl, keeps found stands⟩
    · exact ⟨found, by rw [if_neg here, stands], rfl, rfl, rfl, List.prefix_refl _⟩

/-- A registered device is replaced under its own address. -/
theorem replace_device (covered : Covered store) {found stored : Device}
    (present : Registry.device store address = .ok found)
    (owned : stored.owner.isEmpty = false) (sameId : stored.id = found.id)
    (sameName : stored.name = found.name) (more : found.buckets <+: stored.buckets) :
    Grows store (store.put (.device address) (placed address stored)) := by
  rcases covered.consists.of_device present with ⟨-, idSame, -⟩
  rw [placed_of_id _ (sameId.trans idSame)]
  apply put_device owned
  intro known presentToo
  cases presentToo.symm.trans present
  exact ⟨sameId, sameName, more⟩

end Grows

/-! ## Steps and messages -/

variable {store after : Store}

theorem Step.grows (covered : Covered store) {mark : Mark} (step : Step store mark after) :
    Grows store after := by
  cases step with
  | register name absent named owned =>
    apply Grows.put_device
    · exact owned
    · intro found present
      rw [absent] at present
      contradiction
  | handOver present named owned =>
    apply Grows.replace_device covered present
    · exact owned
    · rfl
    · rfl
    · exact List.prefix_refl _
  | editChannels update present named =>
    have owned := owner_of_device present
    apply Grows.replace_device covered present
    · exact owned
    · rfl
    · rfl
    · exact List.prefix_refl _
  | @extend address channelId channel reading found known present listed stands fresh checked =>
    -- The bucket goes back to the very place where it was found.
    rcases covered.consists.of_bucket stands with ⟨-, hashSame, -⟩
    rw [hashSame]
    apply Grows.put_bucket
    intro other standsToo
    cases standsToo.symm.trans stands
    exact ⟨rfl, rfl, rfl, List.prefix_append _ _⟩
  | @openBucket address channelId channel reading found present listed unknown named channelNamed =>
    have owned := owner_of_device present
    rw [Store.put_comm _ _ _ (by simp)]
    have listing : Grows store (store.put (.device address)
        (placed address
          { found with
            buckets := found.buckets ++ [.ofDay address channel reading.instant] })) := by
      apply Grows.replace_device covered present
      · exact owned
      · rfl
      · rfl
      · exact List.prefix_append _ _
    apply listing.trans
    apply Grows.put_bucket
    intro known stands
    rw [bucket_put_device, unknown] at stands
    contradiction

/-- What every step keeps in a covered store, a message keeps, also where it fails half way. -/
theorem Covered.handle_preserves_of_step (covered : Covered store) (holds : Store → Prop)
    (preserves : ∀ {before mark next}, Covered before → Step before mark next → holds before →
      holds next)
    (start : holds store) (message : Message) : holds ((Registry.handle message).on store).2 := by
  have steps := (steps_of_handle store message).preserves
    (fun next => Covered next ∧ holds next)
    (fun _ step ⟨coveredHere, here⟩ => ⟨coveredHere.step step, preserves coveredHere step here⟩)
    ⟨covered, start⟩
  exact steps.2

theorem Covered.handleEach (covered : Covered store) (messages : List Message) :
    Covered (Registry.handleEach store messages).2 :=
  handleEach_preserves Covered covered fun message _ _ here => here.handle message

/-- A store stays covered, so each message need keep no more than it keeps of a covered store. -/
theorem Covered.handleEach_preserves (covered : Covered store) (holds : Store → Prop)
    {messages : List Message} (start : holds store)
    (preserves : ∀ message ∈ messages, ∀ before, Covered before → holds before →
      holds ((Registry.handle message).on before).2) :
    holds (Registry.handleEach store messages).2 := by
  have kept : Covered (Registry.handleEach store messages).2 ∧
      holds (Registry.handleEach store messages).2 := by
    apply Registry.handleEach_preserves fun next => Covered next ∧ holds next
    · exact ⟨covered, start⟩
    · intro message member before ⟨coveredHere, here⟩
      exact ⟨coveredHere.handle message, preserves message member before coveredHere here⟩
  exact kept.2

/-- What every step keeps, messages keep one after the other. -/
theorem Covered.handleEach_preserves_of_step (covered : Covered store) (holds : Store → Prop)
    (preserves : ∀ {before mark next}, Covered before → Step before mark next → holds before →
      holds next)
    (start : holds store) (messages : List Message) :
    holds (Registry.handleEach store messages).2 := by
  apply covered.handleEach_preserves holds start
  intro message _ before coveredHere here
  exact coveredHere.handle_preserves_of_step holds preserves here message

theorem Covered.grows_handle (covered : Covered store) (message : Message) :
    Grows store ((Registry.handle message).on store).2 :=
  covered.handle_preserves_of_step (Grows store)
    (fun coveredHere step grows => grows.trans (step.grows coveredHere)) (.refl store) message

theorem Covered.grows_handleEach (covered : Covered store) (messages : List Message) :
    Grows store (Registry.handleEach store messages).2 := by
  apply covered.handleEach_preserves (Grows store) (.refl store)
  intro message _ before coveredHere grows
  exact grows.trans (coveredHere.grows_handle message)

/-! ## Main result -/

/-- Messages only add to a registry, whether they succeed or fail. -/
theorem grows_of_handleEach (reached : Reached store) (messages : List Message) :
    Grows store (handleEach store messages).2 :=
  reached.covered.grows_handleEach messages

/-- A channel is renamed, read and removed, and its device changes hands in between. -/
theorem grows_entangledStore :
    Reached entangledStore ∧
      Grows entangledStore
        (handleEach entangledStore
          [.updateChannels ⟨⟨[9]⟩, ⟨[1]⟩, [.assign "a" "noise"]⟩,
            .addReadings ⟨⟨[1]⟩, [.new "a" 86400 ⟨0⟩]⟩,
            .setOwner ⟨⟨[1]⟩, ⟨[9]⟩, ⟨[8]⟩, ""⟩,
            .updateChannels ⟨⟨[8]⟩, ⟨[1]⟩, [.remove "a", .assign "" "force"]⟩,
            .addReadings ⟨⟨[1]⟩, [.new "a" 86401 ⟨0⟩, .new "" 86402 ⟨0⟩]⟩]).2 :=
  ⟨reached_entangledStore, grows_of_handleEach reached_entangledStore _⟩

end DeviceRegistry.Registry
