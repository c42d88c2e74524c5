import Mathlib
import DeviceRegistry.Proofs.Codec
import DeviceRegistry.Proofs.Store.Keys
import DeviceRegistry.Registry.Basic
/-!
# Running operations and reading stores

An operation is understood by what it returns and by the store after it. This file has
one equation for each way to build an operation, and one for each question that is put
to a store after an entry was written or taken out.

Keys of devices and buckets never coincide, and a value is read back as it was written.
So the questions behave like look-ups in two separate maps, on every store, damaged
ones included.
-/

namespace DeviceRegistry

open Binary

/-! ## Running operations -/

namespace Operation

variable {α β : Type} (store : Store)

@[simp]
theorem on_pure (value : α) : (pure value : Operation α).on store = (.ok value, store) := rfl

@[simp]
theorem on_throw (error : RegistryError) :
    (throw error : Operation α).on store = (.error error, store) := rfl

@[simp]
theorem on_liftExcept (answer : Except RegistryError α) :
    (liftExcept answer : Operation α).on store = (answer, store) := by
  cases answer <;> rfl

@[simp]
theorem on_ask (question : Store → Except RegistryError α) :
    (ask question).on store = (question store, store) :=
  on_liftExcept store (question store)

@[simp]
theorem on_modify (change : Store → Store) :
    (modify change : Operation Unit).on store = (.ok (), change store) := rfl

/-- After a failure nothing more is done. -/
theorem on_bind (operation : Operation α) (next : α → Operation β) :
    (operation >>= next).on store =
      match operation.on store with
      | (.ok value, after) => (next value).on after
      | (.error error, after) => (.error error, after) := by
  simp only [on, ExceptT.run_bind, StateT.run_bind]
  rcases (operation.run.run store) with ⟨_ | _, _⟩ <;> rfl

theorem on_bind_of_ok {operation : Operation α} {next : α → Operation β} {after : Store}
    {store : Store} {value : α} (succeeds : operation.on store = (.ok value, after)) :
    (operation >>= next).on store = (next value).on after := by
  rw [on_bind, succeeds]

theorem on_bind_of_error {operation : Operation α} {next : α → Operation β} {after : Store}
    {store : Store} {error : RegistryError} (fails : operation.on store = (.error error, after)) :
    (operation >>= next).on store = (.error error, after) := by
  rw [on_bind, fails]

/-- An answer is handed on, and a question changes nothing. -/
theorem on_bind_ask (question : Store → Except RegistryError α) (next : α → Operation β) :
    (ask question >>= next).on store =
      match question store with
      | .ok value => (next value).on store
      | .error error => (.error error, store) := by
  rw [on_bind, on_ask]
  cases question store <;> rfl

@[simp]
theorem after_bind_pure (operation : Operation α) (result : α → β) :
    ((operation >>= fun value => pure (result value)).on store).2 = (operation.on store).2 := by
  rw [on_bind]
  rcases operation.on store with ⟨_ | _, _⟩ <;> rfl

theorem eq_of_bind_pure {operation : Operation α} {result last : β} {store after : Store}
    (succeeds : (operation >>= fun _ => pure result).on store = (.ok last, after)) :
    last = result := by
  rw [on_bind] at succeeds
  rcases outcome : operation.on store with ⟨error | value, middle⟩
  · simp [outcome] at succeeds
  · simp only [outcome, on_pure] at succeeds
    cases succeeds
    rfl

theorem foldlM_cons_eq_ok {body : β → α → Operation β} {first : α} {rest : List α}
    {tally last : β} {store after : Store}
    (succeeds : ((first :: rest).foldlM body tally).on store = (.ok last, after)) :
    ∃ next middle, (body tally first).on store = (.ok next, middle) ∧
      (rest.foldlM body next).on middle = (.ok last, after) := by
  rw [List.foldlM_cons, on_bind] at succeeds
  rcases outcome : (body tally first).on store with ⟨_ | next, middle⟩
  · simp [outcome] at succeeds
  · simp only [outcome] at succeeds
    exact ⟨next, middle, rfl, succeeds⟩

/-- What holds of the items that a loop has done holds of all items once it has run through. -/
theorem foldlM_of_ok (holds : List α → β → Store → Prop) {body : β → α → Operation β}
    {items : List α} {tally last : β} {store after : Store}
    (step : ∀ done, ∀ item ∈ items, ∀ tally next before after, holds done tally before →
      (body tally item).on before = (.ok next, after) → holds (done ++ [item]) next after)
    (begun : holds [] tally store)
    (succeeds : (items.foldlM body tally).on store = (.ok last, after)) :
    holds items last after := by
  suffices continued : ∀ done, holds done tally store → holds (done ++ items) last after by
    simpa using continued [] begun
  clear begun
  induction items generalizing tally store with
  | nil =>
    intro done held
    cases succeeds
    simpa using held
  | cons first rest hypothesis =>
    intro done held
    rcases foldlM_cons_eq_ok succeeds with ⟨next, middle, first_done, rest_done⟩
    have stepRest : ∀ done, ∀ item ∈ rest, ∀ tally next before after, holds done tally before →
        (body tally item).on before = (.ok next, after) → holds (done ++ [item]) next after := by
      intro earlier item member
      exact step earlier item (List.mem_cons_of_mem _ member)
    have heldNext := step done first List.mem_cons_self tally next store middle held first_done
    have held_last := hypothesis stepRest rest_done (done ++ [first]) heldNext
    simpa using held_last

/-- A loop that fails has done some items, and fails at the next one. -/
theorem foldlM_of_error {body : β → α → Operation β} {items : List α} {tally : β}
    {store after : Store} {error : RegistryError}
    (fails : (items.foldlM body tally).on store = (.error error, after)) :
    ∃ done item rest last middle, items = done ++ item :: rest ∧
      (done.foldlM body tally).on store = (.ok last, middle) ∧
      (body last item).on middle = (.error error, after) := by
  induction items generalizing tally store with
  | nil => cases fails
  | cons first rest hypothesis =>
    rw [List.foldlM_cons, on_bind] at fails
    rcases outcome : (body tally first).on store with ⟨_ | next, middle⟩
    · simp only [outcome] at fails
      cases fails
      exact ⟨[], first, rest, tally, store, rfl, rfl, outcome⟩
    · simp only [outcome] at fails
      rcases hypothesis fails with ⟨done, item, later, last, before, rfl, doneWell, failsHere⟩
      refine ⟨first :: done, item, later, last, before, rfl, ?_, failsHere⟩
      rw [List.foldlM_cons, on_bind_of_ok outcome]
      exact doneWell

/-- What each pass of a loop preserves, the loop preserves, even if it stops half way. -/
theorem foldlM_preserves (holds : Store → Prop) (body : β → α → Operation β) (items : List α)
    (preserves : ∀ tally, ∀ item ∈ items, ∀ before, holds before →
      holds ((body tally item).on before).2)
    (tally : β) {store : Store} (start : holds store) :
    holds ((items.foldlM body tally).on store).2 := by
  induction items generalizing tally store with
  | nil => exact start
  | cons first rest hypothesis =>
    have next := preserves tally first List.mem_cons_self store start
    rw [List.foldlM_cons, on_bind]
    rcases outcome : (body tally first).on store with ⟨_ | tally, after⟩
    · simpa [outcome] using next
    · refine hypothesis (fun tally item member => ?_) tally (by simpa [outcome] using next)
      exact preserves tally item (List.mem_cons_of_mem _ member)

end Operation

/-! ## Entries -/

namespace Store

variable {α : Type} [Codec α]

/-- A store with a value written under a key. -/
def put (store : Store) (key : StoreKey) (value : α) : Store :=
  store.insert key.bytes (Codec.encode value)

/-- A store without what was written under some keys. -/
def dropAll (store : Store) (keys : List StoreKey) : Store :=
  store.changeAll (keys.map fun key => .delete key.bytes)

@[simp]
theorem get?_put_self (store : Store) (key : StoreKey) (value : α) :
    (store.put key value).get? key.bytes = some (Codec.encode value) := by
  rw [put, get?_insert, if_pos rfl]

theorem get?_put_of_ne (store : Store) {key other : StoreKey} (value : α)
    (different : other ≠ key) :
    (store.put key value).get? other.bytes = store.get? other.bytes := by
  rw [put, get?_insert, if_neg (StoreKey.bytes_injective.ne different)]

theorem get?_dropAll (store : Store) (keys : List StoreKey) (bytes : Bytes) :
    (store.dropAll keys).get? bytes =
      if bytes ∈ keys.map StoreKey.bytes then none else store.get? bytes := by
  induction keys generalizing store with
  | nil => rfl
  | cons first rest hypothesis =>
    change ((store.erase first.bytes).dropAll rest).get? bytes = _
    rw [hypothesis, get?_erase, List.map_cons]
    by_cases atFirst : bytes = first.bytes
    · simp [atFirst]
    · simp [atFirst]

theorem get?_dropAll_key (store : Store) (keys : List StoreKey) (key : StoreKey) :
    (store.dropAll keys).get? key.bytes = if key ∈ keys then none else store.get? key.bytes := by
  simp only [get?_dropAll, List.mem_map_of_injective StoreKey.bytes_injective]

end Store

@[simp]
theorem Operation.on_write {α : Type} [Codec α] (key : StoreKey) (value : α) (store : Store) :
    (Operation.write key value).on store = (.ok (), store.put key value) := rfl

/-! ## Questions -/

namespace Registry

variable {α : Type} [Codec α] {store after : Store}

theorem stored?_congr {key : StoreKey} (same : after.get? key.bytes = store.get? key.bytes) :
    stored? (α := α) after key = stored? store key := by
  simp only [stored?, same]

theorem stored?_of_get?_eq_some [Lossless α] {key : StoreKey} {value : α}
    (found : store.get? key.bytes = some (Codec.encode value)) :
    stored? store key = .ok (some value) := by
  simp only [stored?, found, decodeFirst_encode]

theorem stored?_of_get?_eq_none {key : StoreKey} (missing : store.get? key.bytes = none) :
    stored? (α := α) store key = .ok none := by
  simp only [stored?, missing]

theorem device_congr {address : Address}
    (same : after.get? (StoreKey.device address).bytes =
      store.get? (StoreKey.device address).bytes) :
    device after address = device store address := by
  simp only [device, stored?_congr same]

theorem bucket_congr {hash : BucketHash}
    (same : after.get? (StoreKey.bucket hash).bytes = store.get? (StoreKey.bucket hash).bytes) :
    bucket after hash = bucket store hash := by
  simp only [bucket, stored?_congr same]

/-- A stored device counts if it has an owner. -/
theorem device_of_get?_eq_some {address : Address} {stored : Device}
    (found : store.get? (StoreKey.device address).bytes = some (Codec.encode stored)) :
    device store address =
      if stored.owner.isEmpty then .error (.deviceNotFound address) else .ok stored := by
  simp only [device, stored?_of_get?_eq_some found]
  rfl

theorem device_of_get?_eq_none {address : Address}
    (missing : store.get? (StoreKey.device address).bytes = none) :
    device store address = .error (.deviceNotFound address) := by
  simp only [device, stored?_of_get?_eq_none missing]
  rfl

theorem bucket_of_get?_eq_some {hash : BucketHash} {stored : Bucket}
    (found : store.get? (StoreKey.bucket hash).bytes = some (Codec.encode stored)) :
    bucket store hash = .ok stored := by
  simp only [bucket, stored?_of_get?_eq_some found]
  rfl

theorem bucket_of_get?_eq_none {hash : BucketHash}
    (missing : store.get? (StoreKey.bucket hash).bytes = none) :
    bucket store hash = .error (.bucketNotFound hash) := by
  simp only [bucket, stored?_of_get?_eq_none missing]
  rfl

/-! ### After an entry was written -/

variable (store)

theorem device_put_device {address other : Address} {stored : Device}
    (owned : stored.owner.isEmpty = false) :
    device (store.put (.device address) stored) other =
      if other = address then .ok stored else device store other := by
  split
  · rename_i same
    subst same
    rw [device_of_get?_eq_some (store.get?_put_self _ _), owned]
    rfl
  · rename_i different
    exact device_congr (store.get?_put_of_ne _ (by simpa using different))

theorem device_put_device_self {address : Address} {stored : Device}
    (owned : stored.owner.isEmpty = false) :
    device (store.put (.device address) stored) address = .ok stored := by
  rw [device_put_device store owned, if_pos rfl]

@[simp]
theorem device_put_bucket (hash : BucketHash) (stored : Bucket) (address : Address) :
    device (store.put (.bucket hash) stored) address = device store address :=
  device_congr (store.get?_put_of_ne _ (by simp))

@[simp]
theorem bucket_put_bucket (hash other : BucketHash) (stored : Bucket) :
    bucket (store.put (.bucket hash) stored) other =
      if other = hash then .ok stored else bucket store other := by
  split
  · rename_i same
    subst same
    exact bucket_of_get?_eq_some (store.get?_put_self _ _)
  · rename_i different
    exact bucket_congr (store.get?_put_of_ne _ (by simpa using different))

@[simp]
theorem bucket_put_device (address : Address) (stored : Device) (hash : BucketHash) :
    bucket (store.put (.device address) stored) hash = bucket store hash :=
  bucket_congr (store.get?_put_of_ne _ (by simp))

/-! ### After entries were taken out -/

theorem device_dropAll (keys : List StoreKey) (address : Address) :
    device (store.dropAll keys) address =
      if .device address ∈ keys then .error (.deviceNotFound address)
      else device store address := by
  have looked := store.get?_dropAll_key keys (.device address)
  split
  · rename_i dropped
    rw [if_pos dropped] at looked
    exact device_of_get?_eq_none looked
  · rename_i kept
    rw [if_neg kept] at looked
    exact device_congr looked

theorem bucket_dropAll (keys : List StoreKey) (hash : BucketHash) :
    bucket (store.dropAll keys) hash =
      if .bucket hash ∈ keys then .error (.bucketNotFound hash) else bucket store hash := by
  have looked := store.get?_dropAll_key keys (.bucket hash)
  split
  · rename_i dropped
    rw [if_pos dropped] at looked
    exact bucket_of_get?_eq_none looked
  · rename_i kept
    rw [if_neg kept] at looked
    exact bucket_congr looked

/-! ### Absence -/

variable {store}

theorem exists_serialization_of_stored?_eq_error {key : StoreKey} {error : RegistryError}
    (unreadable : stored? (α := α) store key = .error error) :
    ∃ fault, error = .serialization fault := by
  simp only [stored?] at unreadable
  split at unreadable
  · contradiction
  · split at unreadable
    · contradiction
    · cases unreadable
      exact ⟨_, rfl⟩

/-- Where no device is found, the address that is reported is the one that was looked up. -/
theorem eq_of_deviceNotFound {address other : Address}
    (absent : device store address = .error (.deviceNotFound other)) : other = address := by
  simp only [device, bind, Except.bind] at absent
  split at absent
  · rename_i unreadable
    rcases exists_serialization_of_stored?_eq_error unreadable with ⟨fault, rfl⟩
    cases absent
  · split at absent
    · split at absent
      · cases absent
        rfl
      · contradiction
    · cases absent
      rfl

theorem eq_of_bucketNotFound {hash other : BucketHash}
    (absent : bucket store hash = .error (.bucketNotFound other)) : other = hash := by
  simp only [bucket, bind, Except.bind] at absent
  split at absent
  · rename_i unreadable
    rcases exists_serialization_of_stored?_eq_error unreadable with ⟨fault, rfl⟩
    cases absent
  · split at absent
    · contradiction
    · cases absent
      rfl

theorem device?_eq_ok_some {address : Address} {found : Device} :
    device? store address = .ok (some found) ↔ device store address = .ok found := by
  unfold device?
  split <;> simp_all

theorem device?_eq_ok_none {address : Address} :
    device? store address = .ok none ↔
      device store address = .error (.deviceNotFound address) := by
  unfold device?
  split
  · simp_all
  · rename_i other absent
    rw [eq_of_deviceNotFound absent] at absent
    simp [absent]
  · rename_i error notAbsent failed
    rw [failed]
    simpa using notAbsent address

theorem bucket?_eq_ok_some {hash : BucketHash} {found : Bucket} :
    bucket? store hash = .ok (some found) ↔ bucket store hash = .ok found := by
  unfold bucket?
  split <;> simp_all

theorem bucket?_eq_ok_none {hash : BucketHash} :
    bucket? store hash = .ok none ↔ bucket store hash = .error (.bucketNotFound hash) := by
  unfold bucket?
  split
  · simp_all
  · rename_i other absent
    rw [eq_of_bucketNotFound absent] at absent
    simp [absent]
  · rename_i error notAbsent failed
    rw [failed]
    simpa using notAbsent hash

end Registry

end DeviceRegistry
