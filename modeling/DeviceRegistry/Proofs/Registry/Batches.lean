import Mathlib
import DeviceRegistry.Proofs.Registry.Coverage
import DeviceRegistry.Proofs.Registry.Reception
/-!
# Batches of readings

The readings of a message arrive one by one, and each of them changes the store that the next
one is tested against. What they have done together can be told without their order. A reading
goes to a slot, which is a timestamp in a bucket, and a slot is free until the first reading
arrives there. Which of several readings for one slot is kept depends on their order; how many
are kept, which slots are taken and which buckets are opened does not.

A slot has the hash of its bucket and not the coordinates, so no assumption on hashes is needed
here. Two buckets with one hash are one place for slots, as they are for the store.
-/

namespace DeviceRegistry.Registry

/-! ## Slots -/

/-- A timestamp in the bucket that has a hash. -/
abbrev Slot := BucketHash × UInt32

/-- The slots for which a store has readings. -/
def taken (store : Store) : Set Slot :=
  {slot | ∃ stored, bucket store slot.1 = .ok stored ∧ stored.contains slot.2 = true}

/-- The hashes under which a store has buckets. -/
def standing (store : Store) : Set BucketHash :=
  {hash | ∃ stored, bucket store hash = .ok stored}

/-- The slot of a reading, if the device has its channel. -/
def slot? (address : Address) (channels : List Channel) (new : NewReading) : Option Slot :=
  (Channel.find? channels new.channelId).map fun channel =>
    (.ofDay address channel new.reading.instant, new.timestamp)

/-- The slots of readings, as often as there are readings for them. -/
def slots (address : Address) (channels : List Channel) (readings : List NewReading) :
    List Slot :=
  readings.filterMap (slot? address channels)

/-- The slots that are taken by readings for the first time. -/
def novel (store : Store) (sought : List Slot) : Set Slot :=
  {slot | slot ∈ sought ∧ slot ∉ taken store}

variable {store middle after : Store} {address : Address} {found : Device}
  {hash : BucketHash}

theorem standing_of_taken {slot : Slot} (occupied : slot ∈ taken store) :
    slot.1 ∈ standing store := by
  rcases occupied with ⟨stored, stands, -⟩
  exact ⟨stored, stands⟩

theorem notMem_standing {error : RegistryError} (unknown : bucket store hash = .error error) :
    hash ∉ standing store := by
  rintro ⟨stored, stands⟩
  rw [unknown] at stands
  contradiction

theorem mem_taken_iff_contains {known : Bucket} (stands : bucket store hash = .ok known)
    {timestamp : UInt32} : (hash, timestamp) ∈ taken store ↔ known.contains timestamp = true := by
  constructor
  · rintro ⟨stored, standsToo, contained⟩
    cases standsToo.symm.trans stands
    exact contained
  · intro contained
    exact ⟨known, stands, contained⟩

@[simp]
theorem taken_put_device (store : Store) (address : Address) (stored : Device) :
    taken (store.put (.device address) stored) = taken store := by
  simp [taken]

@[simp]
theorem standing_put_device (store : Store) (address : Address) (stored : Device) :
    standing (store.put (.device address) stored) = standing store := by
  simp [standing]

theorem standing_put_bucket (store : Store) (hash : BucketHash) (stored : Bucket) :
    standing (store.put (.bucket hash) stored) = insert hash (standing store) := by
  ext other
  by_cases here : other = hash <;> simp [standing, bucket_put_bucket, here]

/-- A bucket that is written with one reading more takes the slot of the reading. -/
theorem taken_put_bucket {written : Bucket} (reading : Reading)
    (more : ∀ timestamp, written.contains timestamp = true ↔
      timestamp = reading.timestamp ∨ (hash, timestamp) ∈ taken store) :
    taken (store.put (.bucket hash) written) = insert (hash, reading.timestamp) (taken store) := by
  ext ⟨other, timestamp⟩
  by_cases here : other = hash
  · subst here
    rw [Set.mem_insert_iff, Prod.mk.injEq]
    simp only [true_and, ← more]
    simp [taken, bucket_put_bucket]
  · simp [taken, bucket_put_bucket, here]

theorem taken_extend {known : Bucket} (stands : bucket store hash = .ok known)
    (reading : Reading) :
    taken (store.put (.bucket hash) (known.push reading)) =
      insert (hash, reading.timestamp) (taken store) := by
  apply taken_put_bucket
  intro timestamp
  rw [mem_taken_iff_contains stands, Bucket.contains_eq_true, Bucket.contains_eq_true]
  simp [Bucket.push, or_comm]

theorem taken_open {error : RegistryError} (unknown : bucket store hash = .error error)
    (channel : Channel) (instant : Int64) (reading : Reading) :
    taken (store.put (.bucket hash) ((Bucket.new address channel instant).push reading)) =
      insert (hash, reading.timestamp) (taken store) := by
  apply taken_put_bucket
  intro timestamp
  have free : (hash, timestamp) ∉ taken store := by
    intro occupied
    exact notMem_standing unknown (standing_of_taken occupied)
  rw [Bucket.contains_eq_true, or_iff_left free]
  simp [Bucket.push, Bucket.new]

section Novel

variable {sought : List Slot} {slot : Slot}

theorem mem_novel : slot ∈ novel store sought ↔ slot ∈ sought ∧ slot ∉ taken store :=
  Iff.rfl

theorem novel_of_taken (occupied : ∀ slot ∈ sought, slot ∈ taken store) :
    novel store sought = ∅ := by
  apply Set.eq_empty_of_forall_notMem
  rintro slot ⟨member, free⟩
  exact free (occupied slot member)

theorem novel_append_of_known (known : slot ∈ taken store ∨ slot ∈ sought) :
    novel store (sought ++ [slot]) = novel store sought := by
  ext other
  simp only [mem_novel, List.mem_append, List.mem_singleton]
  constructor
  · rintro ⟨before | rfl, free⟩
    · exact ⟨before, free⟩
    · exact ⟨known.resolve_left free, free⟩
  · rintro ⟨before, free⟩
    exact ⟨Or.inl before, free⟩

theorem ncard_novel_append_of_free (free : slot ∉ taken store) (fresh : slot ∉ sought) :
    (novel store (sought ++ [slot])).ncard = (novel store sought).ncard + 1 := by
  have finite : (novel store sought).Finite :=
    (List.finite_toSet sought).subset fun _ member => member.1
  have added : novel store (sought ++ [slot]) = insert slot (novel store sought) := by
    ext other
    simp only [mem_novel, List.mem_append, List.mem_singleton, Set.mem_insert_iff]
    constructor
    · rintro ⟨before | rfl, freeHere⟩
      · exact Or.inr ⟨before, freeHere⟩
      · exact Or.inl rfl
    · rintro (rfl | ⟨before, freeHere⟩)
      · exact ⟨Or.inr rfl, free⟩
      · exact ⟨Or.inl before, freeHere⟩
  rw [added, Set.ncard_insert_of_notMem _ finite]
  intro member
  exact fresh member.1

end Novel

/-! ## What a batch does -/

section Absorbed

variable {sought : List Slot} {slot : Slot} {done : List NewReading} {new : NewReading}
  {tally next : Tally}

theorem slot?_of_listed (address : Address) {channel : Channel}
    (has : found.channel? new.channelId = some channel) :
    slot? address found.channels new =
      some (.ofDay address channel new.reading.instant, new.timestamp) := by
  rw [Device.channel?] at has
  rw [slot?, has, Option.map_some]

theorem slots_append_of_missing (address : Address) (done : List NewReading)
    (missing : found.channel? new.channelId = none) :
    slots address found.channels (done ++ [new]) = slots address found.channels done := by
  rw [Device.channel?] at missing
  simp [slots, slot?, missing]

theorem slots_append_of_listed (address : Address) (done : List NewReading) {channel : Channel}
    (has : found.channel? new.channelId = some channel) :
    slots address found.channels (done ++ [new]) =
      slots address found.channels done ++
        [(.ofDay address channel new.reading.instant, new.timestamp)] := by
  simp [slots, slot?_of_listed address has]

/-- A device lists what it listed before, and the buckets that have come to stand since then. -/
def ListsOpened (store : Store) (address : Address) (found : Device) (after : Store) : Prop :=
  ∃ later opened, device after address = .ok later ∧ later.channels = found.channels ∧
    later.buckets = found.buckets ++ opened ∧ opened.Nodup ∧
      ∀ hash, hash ∈ opened ↔ hash ∈ standing after ∧ hash ∉ standing store

theorem ListsOpened.start (present : device store address = .ok found) :
    ListsOpened store address found store :=
  ⟨found, [], present, rfl, (List.append_nil _).symm, List.nodup_nil, by simp⟩

theorem ListsOpened.extend (lists : ListsOpened store address found middle)
    (stands : hash ∈ standing middle) (stored : Bucket) :
    ListsOpened store address found (middle.put (.bucket hash) stored) := by
  rcases lists with ⟨later, opened, present, sameChannels, buckets, distinct, mem_opened⟩
  refine ⟨later, opened, ?_, sameChannels, buckets, distinct, ?_⟩
  · rw [device_put_bucket, present]
  · rw [standing_put_bucket, Set.insert_eq_of_mem stands]
    exact mem_opened

theorem ListsOpened.open (lists : ListsOpened store address found middle) {later : Device}
    (present : device middle address = .ok later) (fresh : hash ∉ standing middle)
    (unknown : hash ∉ standing store) (stored : Bucket) :
    ListsOpened store address found
      ((middle.put (.bucket hash) stored).put (.device address)
        (placed address { later with buckets := later.buckets ++ [hash] })) := by
  rcases lists with ⟨same, opened, presentToo, sameChannels, buckets, distinct, mem_opened⟩
  cases presentToo.symm.trans present
  have owned := owner_of_device present
  refine ⟨_, opened ++ [hash], device_put_device_self _ (by exact owned), sameChannels, ?_, ?_, ?_⟩
  · rw [buckets_placed, buckets, List.append_assoc]
  · rw [← List.concat_eq_append, List.nodup_concat, mem_opened]
    exact ⟨fun member => fresh member.1, distinct⟩
  · intro other
    rw [standing_put_device, standing_put_bucket, Set.mem_insert_iff, List.mem_append,
      List.mem_singleton, mem_opened]
    by_cases here : other = hash
    · subst here
      simp [unknown]
    · simp [here]

/-- What readings have done to a store that they have arrived at, in whatever order. -/
structure Absorbed (store : Store) (address : Address) (found : Device) (sought : List Slot)
    (tally : Tally) (after : Store) : Prop where
  covered : Covered after
  counted : tally.accepted + tally.duplicates = sought.length
  accepted : tally.accepted = (novel store sought).ncard
  taken : ∀ slot, slot ∈ taken after ↔ slot ∈ taken store ∨ slot ∈ sought
  standing : ∀ hash, hash ∈ standing after ↔ hash ∈ standing store ∨ hash ∈ sought.map Prod.fst
  listed : ListsOpened store address found after

namespace Absorbed

theorem start (covered : Covered store) (present : device store address = .ok found) :
    Absorbed store address found [] ⟨0, 0, 0⟩ store where
  covered := covered
  counted := rfl
  accepted := by simp [novel]
  taken := by simp
  standing := by simp
  listed := .start present

theorem skip (absorbed : Absorbed store address found sought tally after) :
    Absorbed store address found sought { tally with skipped := tally.skipped + 1 } after :=
  { absorbed with }

theorem repeated (absorbed : Absorbed store address found sought tally after)
    (occupied : slot ∈ Registry.taken after) :
    Absorbed store address found (sought ++ [slot])
      { tally with duplicates := tally.duplicates + 1 } after := by
  have stands := standing_of_taken occupied
  refine { absorbed with counted := ?_, accepted := ?_, taken := ?_, standing := ?_ }
  · rw [List.length_append, ← absorbed.counted]
    rfl
  · rw [novel_append_of_known ((absorbed.taken slot).mp occupied)]
    exact absorbed.accepted
  · intro other
    rw [absorbed.taken] at occupied
    rw [absorbed.taken, List.mem_append, List.mem_singleton, ← or_assoc, iff_self_or]
    rintro rfl
    exact occupied
  · intro hash
    rw [absorbed.standing] at stands
    rw [absorbed.standing, List.map_append, List.mem_append, List.map_singleton,
      List.mem_singleton, ← or_assoc, iff_self_or]
    rintro rfl
    exact stands

/-- A reading takes a free slot, whether its bucket is there already or not. -/
theorem filled {last : Store} (absorbed : Absorbed store address found sought tally after)
    (free : slot ∉ Registry.taken after) (covered : Covered last)
    (takes : Registry.taken last = insert slot (Registry.taken after))
    (stands : Registry.standing last = insert slot.1 (Registry.standing after))
    (listed : ListsOpened store address found last) :
    Absorbed store address found (sought ++ [slot])
      { tally with accepted := tally.accepted + 1 } last where
  covered := covered
  counted := by
    have counted := absorbed.counted
    rw [List.length_append, List.length_singleton]
    simp only
    omega
  accepted := by
    rw [absorbed.taken, not_or] at free
    rw [ncard_novel_append_of_free free.1 free.2, ← absorbed.accepted]
  taken other := by
    rw [takes, Set.mem_insert_iff, absorbed.taken, List.mem_append, List.mem_singleton, or_comm,
      or_assoc]
  standing hash := by
    rw [stands, Set.mem_insert_iff, absorbed.standing, List.map_append, List.mem_append,
      List.map_singleton, List.mem_singleton, or_comm, or_assoc]
  listed := listed

/-- One more reading; only that of a known channel has a slot. -/
theorem append
    (absorbed : Absorbed store address found (slots address found.channels done) tally middle)
    (succeeds : (appendCounted address tally new).on middle = (.ok next, after)) :
    Absorbed store address found (slots address found.channels (done ++ [new])) next after := by
  rcases absorbed.listed with ⟨later, -, present, sameChannels, -⟩
  have received := received_appendCounted absorbed.covered.consists present tally new
  have covered := absorbed.covered.appendCounted address tally new
  rw [succeeds] at received covered
  rw [← sameChannels] at absorbed ⊢
  cases received with
  | skipped missing =>
    rw [slots_append_of_missing address done missing]
    exact absorbed.skip
  | duplicate has stands contained =>
    rw [slots_append_of_listed address done has]
    apply absorbed.repeated
    exact (mem_taken_iff_contains stands).mpr contained
  | extended has stands fresh =>
    rcases absorbed.covered.consists.of_bucket stands with ⟨-, hashSame, -⟩
    rw [hashSame] at covered ⊢
    rw [slots_append_of_listed address done has]
    apply absorbed.filled
    · rw [mem_taken_iff_contains stands, fresh]
      exact Bool.false_ne_true
    · exact covered
    · exact taken_extend stands new.reading
    · exact standing_put_bucket _ _ _
    · exact absorbed.listed.extend ⟨_, stands⟩ _
  | opened has unknown channelNamed =>
    have fresh := notMem_standing unknown
    have before := fresh
    rw [absorbed.standing, not_or] at before
    rw [slots_append_of_listed address done has]
    apply absorbed.filled
    · intro occupied
      exact fresh (standing_of_taken occupied)
    · exact covered
    · rw [taken_put_device, taken_open unknown]
      rfl
    · rw [standing_put_device, standing_put_bucket]
    · exact absorbed.listed.open present fresh before.1 _

end Absorbed

/-- What a loop over readings has done once it has run through. -/
theorem absorbed_of_readings (covered : Covered store)
    (present : device store address = .ok found) {readings : List NewReading}
    (succeeds : (readings.foldlM (appendCounted address) ⟨0, 0, 0⟩).on store =
      (.ok tally, after)) :
    Absorbed store address found (slots address found.channels readings) tally after := by
  apply Operation.foldlM_of_ok
    (fun done => Absorbed store address found (slots address found.channels done)) _ _ succeeds
  · intro done new _ tally next before after absorbed one
    exact absorbed.append one
  · exact Absorbed.start covered present

end Absorbed

end DeviceRegistry.Registry
