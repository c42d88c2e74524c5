import Mathlib
import DeviceRegistry.Proofs.Registry.Steps
/-!
# The invariant of a registry

A sound store consists of devices and buckets, each in its binary form and under its
own key, and links the two: a device lists exactly the hashes of the buckets that are
stored for it, and no bucket is without a device.

The invariant has two halves that are preserved for different reasons. That a store
consists of devices and buckets is a matter of each entry that is written. The link is
a matter of what the questions about devices and buckets answer, and only the opening
of a bucket touches both sides of it.
-/

namespace DeviceRegistry

/-- A bucket as readings leave it: it starts at its instant, and no timestamp comes twice. -/
structure Bucket.Regular (bucket : Bucket) : Prop where
  started : bucket.readings.head?.map Reading.instant = some bucket.instant
  distinct : (bucket.readings.map Reading.timestamp).Nodup

theorem Bucket.contains_eq_true {bucket : Bucket} {timestamp : UInt32} :
    bucket.contains timestamp = true ↔ timestamp ∈ bucket.readings.map Reading.timestamp := by
  simp [contains]

theorem Bucket.contains_eq_false {bucket : Bucket} {timestamp : UInt32} :
    bucket.contains timestamp = false ↔ timestamp ∉ bucket.readings.map Reading.timestamp := by
  simp [contains]

theorem Bucket.nodup_push {bucket : Bucket} {reading : Reading}
    (distinct : (bucket.readings.map Reading.timestamp).Nodup)
    (fresh : bucket.contains reading.timestamp = false) :
    ((bucket.push reading).readings.map Reading.timestamp).Nodup := by
  rw [contains_eq_false] at fresh
  simp only [Bucket.push, List.map_append, List.map_cons, List.map_nil]
  rw [← List.concat_eq_append, List.nodup_concat]
  exact ⟨fresh, distinct⟩

theorem Bucket.Regular.push {bucket : Bucket} (regular : bucket.Regular) {reading : Reading}
    (fresh : bucket.contains reading.timestamp = false) : (bucket.push reading).Regular where
  started := by
    have started := regular.started
    cases readings : bucket.readings with
    | nil => simp [readings] at started
    | cons first rest => simpa [Bucket.push, readings] using started
  distinct := nodup_push regular.distinct fresh

theorem Bucket.regular_new_push (device : Address) (channel : Channel) (reading : Reading) :
    ((Bucket.new device channel reading.instant).push reading).Regular :=
  ⟨rfl, List.nodup_singleton _⟩

namespace Registry

/-! ## Entries -/

/-- Every entry is a device or a bucket under its own key, and obeys a law of its kind. -/
structure Consists (deviceLaw : Device → Prop) (bucketLaw : Bucket → Prop) (store : Store) :
    Prop where
  known : ∀ {bytes value}, store.get? bytes = some value → ∃ key : StoreKey, bytes = key.bytes
  device : ∀ {address value}, store.get? (StoreKey.device address).bytes = some value →
    ∃ found : Device, value = Binary.Codec.encode found ∧ found.id = address ∧
      address.isEmpty = false ∧ found.owner.isEmpty = false ∧ deviceLaw found
  bucket : ∀ {hash value}, store.get? (StoreKey.bucket hash).bytes = some value →
    ∃ found : Bucket, value = Binary.Codec.encode found ∧ found.hash = hash ∧
      checkBucket found = .ok () ∧ bucketLaw found

namespace Consists

variable {deviceLaw : Device → Prop} {bucketLaw : Bucket → Prop} {store : Store}

theorem empty : Consists deviceLaw bucketLaw .empty where
  known found := by simp at found
  device found := by simp at found
  bucket found := by simp at found

theorem known_put {α : Type} [Binary.Codec α] (consists : Consists deviceLaw bucketLaw store)
    (key : StoreKey) (stored : α) {bytes value : Bytes}
    (found : (store.put key stored).get? bytes = some value) :
    ∃ key : StoreKey, bytes = key.bytes := by
  rw [Store.put, Store.get?_insert] at found
  split at found
  · rename_i same
    exact ⟨key, same⟩
  · exact consists.known found

theorem put_device (consists : Consists deviceLaw bucketLaw store) {address : Address}
    {stored : Device} (idSame : stored.id = address) (named : address.isEmpty = false)
    (owned : stored.owner.isEmpty = false) (law : deviceLaw stored) :
    Consists deviceLaw bucketLaw (store.put (.device address) stored) where
  known found := consists.known_put _ _ found
  device {other value} found := by
    by_cases same : other = address
    · subst same
      rw [Store.get?_put_self] at found
      exact ⟨stored, (Option.some.inj found).symm, idSame, named, owned, law⟩
    · rw [Store.get?_put_of_ne _ _ (by simpa using same)] at found
      exact consists.device found
  bucket {hash value} found := by
    rw [Store.get?_put_of_ne _ _ (by simp)] at found
    exact consists.bucket found

theorem put_bucket (consists : Consists deviceLaw bucketLaw store) (stored : Bucket)
    (checked : checkBucket stored = .ok ()) (law : bucketLaw stored) :
    Consists deviceLaw bucketLaw (store.put (.bucket stored.hash) stored) where
  known found := consists.known_put _ _ found
  device {address value} found := by
    rw [Store.get?_put_of_ne _ _ (by simp)] at found
    exact consists.device found
  bucket {hash value} found := by
    by_cases same : hash = stored.hash
    · subst same
      rw [Store.get?_put_self] at found
      exact ⟨stored, (Option.some.inj found).symm, rfl, checked, law⟩
    · rw [Store.get?_put_of_ne _ _ (by simpa using same)] at found
      exact consists.bucket found

theorem of_fewer (consists : Consists deviceLaw bucketLaw store) {after : Store}
    (fewer : ∀ bytes value, after.get? bytes = some value → store.get? bytes = some value) :
    Consists deviceLaw bucketLaw after where
  known found := consists.known (fewer _ _ found)
  device found := consists.device (fewer _ _ found)
  bucket found := consists.bucket (fewer _ _ found)

/-- A device is either found as it is stored, or there is no entry. -/
theorem device_cases (consists : Consists deviceLaw bucketLaw store) (address : Address) :
    (∃ found, Registry.device store address = .ok found ∧
      store.get? (StoreKey.device address).bytes = some (Binary.Codec.encode found) ∧
      found.id = address ∧ address.isEmpty = false ∧ deviceLaw found) ∨
    (Registry.device store address = .error (.deviceNotFound address) ∧
      store.get? (StoreKey.device address).bytes = none) := by
  rcases stored : store.get? (StoreKey.device address).bytes with _ | value
  · exact Or.inr ⟨device_of_get?_eq_none stored, rfl⟩
  · rcases consists.device stored with ⟨found, rfl, idSame, named, owned, law⟩
    refine Or.inl ⟨found, ?_, rfl, idSame, named, law⟩
    rw [device_of_get?_eq_some stored, owned]
    rfl

theorem bucket_cases (consists : Consists deviceLaw bucketLaw store) (hash : BucketHash) :
    (∃ found, Registry.bucket store hash = .ok found ∧
      store.get? (StoreKey.bucket hash).bytes = some (Binary.Codec.encode found) ∧
      found.hash = hash ∧ checkBucket found = .ok () ∧ bucketLaw found) ∨
    (Registry.bucket store hash = .error (.bucketNotFound hash) ∧
      store.get? (StoreKey.bucket hash).bytes = none) := by
  rcases stored : store.get? (StoreKey.bucket hash).bytes with _ | value
  · exact Or.inr ⟨bucket_of_get?_eq_none stored, rfl⟩
  · rcases consists.bucket stored with ⟨found, rfl, hashSame, checked, law⟩
    exact Or.inl ⟨found, bucket_of_get?_eq_some stored, rfl, hashSame, checked, law⟩

theorem of_device (consists : Consists deviceLaw bucketLaw store) {address : Address}
    {found : Device} (present : Registry.device store address = .ok found) :
    store.get? (StoreKey.device address).bytes = some (Binary.Codec.encode found) ∧
      found.id = address ∧ address.isEmpty = false ∧ deviceLaw found := by
  rcases consists.device_cases address with ⟨other, otherPresent, facts⟩ | ⟨absent, -⟩
  · rcases Except.ok.inj (otherPresent.symm.trans present) with rfl
    exact facts
  · rw [present] at absent
    contradiction

theorem of_bucket (consists : Consists deviceLaw bucketLaw store) {hash : BucketHash}
    {found : Bucket} (stored : Registry.bucket store hash = .ok found) :
    store.get? (StoreKey.bucket hash).bytes = some (Binary.Codec.encode found) ∧
      found.hash = hash ∧ checkBucket found = .ok () ∧ bucketLaw found := by
  rcases consists.bucket_cases hash with ⟨other, otherStored, facts⟩ | ⟨absent, -⟩
  · rcases Except.ok.inj (otherStored.symm.trans stored) with rfl
    exact facts
  · rw [stored] at absent
    contradiction

/-- Whoever has an entry is registered, for no entry is without an owner. -/
theorem device_iff (consists : Consists deviceLaw bucketLaw store) {address : Address}
    {found : Device} :
    Registry.device store address = .ok found ↔
      store.get? (StoreKey.device address).bytes = some (Binary.Codec.encode found) := by
  constructor
  · intro present
    exact (consists.of_device present).1
  · intro stands
    rcases consists.device_cases address with ⟨other, present, entry, -⟩ | ⟨-, missing⟩
    · cases Binary.encode_injective (Option.some.inj (entry.symm.trans stands))
      exact present
    · rw [missing] at stands
      contradiction

theorem bucket_iff (consists : Consists deviceLaw bucketLaw store) {hash : BucketHash}
    {found : Bucket} :
    Registry.bucket store hash = .ok found ↔
      store.get? (StoreKey.bucket hash).bytes = some (Binary.Codec.encode found) := by
  constructor
  · intro stands
    exact (consists.of_bucket stands).1
  · exact bucket_of_get?_eq_some

end Consists

/-! ## Links -/

/-- The hashes are those of the buckets that are stored for a device, each once. -/
def ListsBucketsOf (store : Store) (address : Address) (hashes : List BucketHash) : Prop :=
  hashes.Nodup ∧
    ∀ hash, hash ∈ hashes ↔ ∃ stored, bucket store hash = .ok stored ∧ stored.device = address

/-- Devices and buckets refer to each other. -/
structure Linked (store : Store) : Prop where
  /-- The device of a bucket is registered. -/
  housed : ∀ {hash stored}, bucket store hash = .ok stored →
    ∃ home, device store stored.device = .ok home
  /-- A device lists its buckets. -/
  listed : ∀ {address found}, device store address = .ok found →
    ListsBucketsOf store address found.buckets

namespace Linked

variable {store : Store}

/-- A device entry may change in everything but its buckets. -/
theorem put_device (linked : Linked store) {address : Address} {stored : Device}
    (owned : stored.owner.isEmpty = false)
    (lists : ListsBucketsOf store address stored.buckets) :
    Linked (store.put (.device address) stored) where
  housed {hash found} there := by
    rw [bucket_put_device] at there
    rw [device_put_device store owned]
    split
    · exact ⟨stored, rfl⟩
    · exact linked.housed there
  listed {other found} present := by
    rw [device_put_device store owned] at present
    simp only [ListsBucketsOf, bucket_put_device]
    split at present
    · rename_i same
      subst same
      cases present
      exact lists
    · exact linked.listed present

/-- A bucket may change in everything but its device. -/
theorem put_known_bucket (linked : Linked store) {hash : BucketHash} {known stored : Bucket}
    (there : bucket store hash = .ok known) (sameDevice : stored.device = known.device) :
    Linked (store.put (.bucket hash) stored) where
  housed {other found} stands := by
    rw [bucket_put_bucket] at stands
    rw [device_put_bucket]
    split at stands
    · cases stands
      rw [sameDevice]
      exact linked.housed there
    · exact linked.housed stands
  listed {address found} present := by
    rw [device_put_bucket] at present
    rcases linked.listed present with ⟨nodup, mem_iff⟩
    refine ⟨nodup, fun other => ?_⟩
    rw [mem_iff, bucket_put_bucket]
    split
    · rename_i same
      subst same
      simp only [there, Except.ok.injEq, exists_eq_left', sameDevice]
    · rfl

/-- A bucket is opened in two writes, after which both sides agree again. -/
theorem open_bucket (linked : Linked store) {address : Address} {found : Device}
    {hash : BucketHash} {opened : Bucket} {listing : Device}
    (present : device store address = .ok found)
    (unknown : bucket store hash = .error (.bucketNotFound hash))
    (home : opened.device = address) (owned : listing.owner.isEmpty = false)
    (listsIt : listing.buckets = found.buckets ++ [hash]) :
    Linked ((store.put (.bucket hash) opened).put (.device address) listing) where
  housed {other stored} there := by
    rw [bucket_put_device, bucket_put_bucket] at there
    rw [device_put_device _ owned, device_put_bucket]
    split
    · exact ⟨listing, rfl⟩
    · split at there
      · cases there
        contradiction
      · exact linked.housed there
  listed {other stored} there := by
    rw [device_put_device _ owned, device_put_bucket] at there
    have notYet : ∀ device, ¬∃ stored, bucket store hash = .ok stored ∧ stored.device = device := by
      rintro device ⟨stored, stands, -⟩
      rw [unknown] at stands
      contradiction
    simp only [ListsBucketsOf, bucket_put_device, bucket_put_bucket]
    split at there
    · rename_i same
      subst same
      cases there
      rcases linked.listed present with ⟨nodup, mem_iff⟩
      rw [listsIt]
      constructor
      · rw [← List.concat_eq_append, List.nodup_concat]
        exact ⟨fun member => notYet _ ((mem_iff hash).mp member), nodup⟩
      · intro candidate
        rw [List.mem_append, List.mem_singleton, mem_iff]
        split
        · rename_i same
          simp [same, home]
        · rename_i different
          simp [different]
    · rename_i different
      rcases linked.listed there with ⟨nodup, mem_iff⟩
      refine ⟨nodup, fun candidate => ?_⟩
      rw [mem_iff]
      split
      · rename_i same
        subst same
        simp only [notYet, Except.ok.injEq, exists_eq_left', home, false_iff]
        exact fun equal => different equal.symm
      · rfl

/-- A device may go if its buckets go with it. -/
theorem drop_device (linked : Linked store) {address : Address} {found : Device}
    (present : device store address = .ok found) :
    Linked (store.dropAll (keysOf address found)) where
  housed {hash stored} stands := by
    rw [bucket_dropAll] at stands
    split at stands
    · contradiction
    · rename_i kept
      rcases linked.housed stands with ⟨home, there⟩
      have elsewhere : stored.device ≠ address := by
        rintro rfl
        have listedThere := ((linked.listed present).2 hash).mpr ⟨stored, stands, rfl⟩
        exact kept (by simpa [keysOf] using listedThere)
      exact ⟨home, by simpa [device_dropAll, keysOf, elsewhere] using there⟩
  listed {other remaining} there := by
    rw [device_dropAll] at there
    split at there
    · contradiction
    · rename_i kept
      have elsewhere : other ≠ address := by
        rintro rfl
        exact kept (by simp [keysOf])
      rcases linked.listed there with ⟨nodup, mem_iff⟩
      refine ⟨nodup, fun hash => ?_⟩
      rw [mem_iff, bucket_dropAll]
      split
      · rename_i dropped
        simp only [reduceCtorEq, false_and, exists_false, iff_false]
        rintro ⟨stored, stands, rfl⟩
        have listedThere : hash ∈ found.buckets := by simpa [keysOf] using dropped
        rcases ((linked.listed present).2 hash).mp listedThere with ⟨same, stillStands, home⟩
        rcases Except.ok.inj (stillStands.symm.trans stands) with rfl
        exact elsewhere home
      · rfl

end Linked

/-! ## Sound stores -/

/-- The invariant of every registry that grew out of an empty store. -/
structure Sound (store : Store) : Prop
    extends Linked store where
  consists : Consists (fun found => Channel.DistinctIds found.channels) Bucket.Regular store

namespace Sound

variable {store after : Store}

theorem empty : Sound .empty where
  consists := .empty
  housed stands := by
    rw [bucket_of_get?_eq_none (Store.get?_empty _)] at stands
    contradiction
  listed present := by
    rw [device_of_get?_eq_none (Store.get?_empty _)] at present
    contradiction

theorem listsBucketsOf_nil (sound : Sound store) {address : Address}
    (absent : device store address = .error (.deviceNotFound address)) :
    ListsBucketsOf store address [] := by
  refine ⟨List.nodup_nil, fun hash => ?_⟩
  simp only [List.not_mem_nil, false_iff]
  rintro ⟨stored, stands, rfl⟩
  rcases sound.housed stands with ⟨home, present⟩
  rw [present] at absent
  contradiction

theorem step (sound : Sound store) {mark : Mark} (step : Step store mark after) : Sound after := by
  cases step with
  | register _ absent named owned =>
    exact {
      toLinked := sound.toLinked.put_device owned (sound.listsBucketsOf_nil absent)
      consists := sound.consists.put_device rfl named owned List.nodup_nil }
  | @handOver address owner found present named owned =>
    rcases sound.consists.of_device present with ⟨-, idSame, -, distinct⟩
    have lists := sound.listed present
    rw [placed_of_id _ (by exact idSame)]
    exact {
      toLinked := sound.toLinked.put_device owned lists
      consists := sound.consists.put_device idSame named owned distinct }
  | @editChannels address found update present named =>
    rcases sound.consists.of_device present with ⟨-, idSame, -, distinct⟩
    have owned := owner_of_device present
    have lists := sound.listed present
    rw [placed_of_id _ (by exact idSame)]
    exact {
      toLinked := sound.toLinked.put_device owned lists
      consists := sound.consists.put_device idSame named owned (distinct.apply update) }
  | @extend address channelId channel reading found known present listed stored fresh checked =>
    rcases sound.consists.of_bucket stored with ⟨-, hashSame, -, regular⟩
    refine {
      toLinked := ?_
      consists := sound.consists.put_bucket (known.push reading) checked (regular.push fresh) }
    rw [hashSame]
    exact sound.toLinked.put_known_bucket stored rfl
  | @openBucket address channelId channel reading found present listed unknown named channelNamed =>
    rcases sound.consists.of_device present with ⟨-, idSame, -, distinct⟩
    have owned := owner_of_device present
    rw [placed_of_id _ (by exact idSame)]
    refine {
      toLinked := sound.toLinked.open_bucket present unknown rfl owned rfl
      consists := ?_ }
    have checked := checkBucket_eq_ok.mpr
      (show (Bucket.new address channel reading.instant).device.isEmpty = false ∧
        (Bucket.new address channel reading.instant).channel.id.isEmpty = false from
        ⟨named, channelNamed⟩)
    have opened := sound.consists.put_bucket
      ((Bucket.new address channel reading.instant).push reading) checked
      (Bucket.regular_new_push address channel reading)
    exact opened.put_device idSame named owned distinct

theorem drop_device (sound : Sound store) {address : Address} {found : Device}
    (present : device store address = .ok found) :
    Sound (store.dropAll (keysOf address found)) := by
  refine {
    toLinked := sound.toLinked.drop_device present
    consists := sound.consists.of_fewer fun bytes value stands => ?_ }
  rw [Store.get?_dropAll] at stands
  split at stands
  · contradiction
  · exact stands

theorem steps (sound : Sound store) {permitted : Mark → Prop}
    (steps : Steps permitted store after) : Sound after :=
  steps.preserves Sound (fun _ step sound => Sound.step sound step) sound

/-- Messages keep a store sound, also where they fail half way. -/
theorem handle (sound : Sound store) (message : Message) :
    Sound ((handle message).on store).2 :=
  sound.steps (steps_of_handle store message)

end Sound

end Registry

end DeviceRegistry
