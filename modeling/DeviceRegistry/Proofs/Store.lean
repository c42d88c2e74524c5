import Mathlib
import DeviceRegistry.Store
/-!
# Stores as finite maps

The entries of a store ascend strictly, so a store is known from its answers: two stores
that answer alike for every key are equal. Writing is then understood through the
answers alone, and it does not matter in which order two keys are written.
-/

namespace DeviceRegistry

/-- Of strictly ascending lists there is only one with given members. -/
theorem Bytes.eq_of_ascending {α : Type} {key : α → Bytes} {left right : List α}
    (leftAscends : left.Pairwise fun first second => key first < key second)
    (rightAscends : right.Pairwise fun first second => key first < key second)
    (same : ∀ item, item ∈ left ↔ item ∈ right) : left = right := by
  have irreflexive : Std.Irrefl fun first second : α => key first < key second :=
    ⟨fun item => List.lt_irrefl (key item)⟩
  have antisymmetric : Std.Antisymm fun first second : α => key first < key second :=
    ⟨fun first second below above =>
      absurd (List.lt_trans below above) (List.lt_irrefl (key first))⟩
  exact leftAscends.eq_of_mem_iff rightAscends same

/-- An entry that is written takes the place of the one before it in every sum. -/
theorem Entries.sum_insert {entries : List (Bytes × Bytes)} (ordered : Ordered entries)
    (weight : Bytes × Bytes → Nat) (key value : Bytes) :
    ((insert key value entries).map weight).sum +
        (entries.find? fun entry => entry.1 = key).elim 0 weight =
      (entries.map weight).sum + weight (key, value) := by
  induction entries with
  | nil => simp [insert]
  | cons first rest hypothesis =>
    have firstBelow : ∀ entry ∈ rest, first.1 < entry.1 := by
      intro entry member
      exact List.rel_of_pairwise_cons ordered member
    simp only [insert]
    split
    · rename_i below
      have above : ∀ entry ∈ first :: rest, key < entry.1 := by
        intro entry member
        rcases List.mem_cons.mp member with rfl | member
        · exact below
        · exact List.lt_trans below (firstBelow entry member)
      have missing : (first :: rest).find? (fun entry => entry.1 = key) = none := by
        apply List.find?_eq_none.mpr
        intro entry member found
        have same : entry.1 = key := by simpa using found
        exact List.lt_irrefl key (same ▸ above entry member)
      simp [missing]
      omega
    · split
      · rename_i same
        simp [same]
        omega
      · rename_i different
        have later := hypothesis ordered.of_cons
        have skipped : (first :: rest).find? (fun entry => entry.1 = key) =
            rest.find? (fun entry => entry.1 = key) := by
          apply List.find?_cons_of_neg
          simpa using Ne.symm different
        rw [skipped]
        simp only [List.map_cons, List.sum_cons]
        omega

namespace Store

variable {store : Store}

theorem nodup_keys (store : Store) : (store.entries.map Prod.fst).Nodup := by
  apply List.pairwise_map.mpr
  apply store.ordered.imp
  intro left right below same
  exact List.lt_irrefl right.1 (same ▸ below)

theorem get?_eq_some_iff {key value : Bytes} :
    store.get? key = some value ↔ (key, value) ∈ store.entries := by
  simp only [get?, Option.map_eq_some_iff]
  constructor
  · rintro ⟨⟨foundKey, foundValue⟩, found, rfl⟩
    have sameKey : foundKey = key := by simpa using List.find?_some found
    subst sameKey
    exact List.mem_of_find?_eq_some found
  · intro member
    rcases found : store.entries.find? (fun entry => entry.1 = key) with _ | other
    · have missed := List.find?_eq_none.mp found (key, value) member
      simp at missed
    · have sameKey : other.1 = key := by simpa using List.find?_some found
      have otherMem := List.mem_of_find?_eq_some found
      have same : other = (key, value) :=
        List.inj_on_of_nodup_map store.nodup_keys otherMem member sameKey
      exact ⟨other, found, congrArg Prod.snd same⟩

/-- A store is known from its answers. -/
theorem ext_get? {left right : Store} (same : ∀ key, left.get? key = right.get? key) :
    left = right := by
  have sameEntries : ∀ entry, entry ∈ left.entries ↔ entry ∈ right.entries := by
    rintro ⟨key, value⟩
    rw [← get?_eq_some_iff, ← get?_eq_some_iff, same]
  have entriesEq : left.entries = right.entries :=
    Bytes.eq_of_ascending left.ordered right.ordered sameEntries
  cases left
  cases right
  simpa using entriesEq

/-- The sum of what the entries count for. -/
def sum (store : Store) (weight : Bytes × Bytes → Nat) : Nat :=
  (store.entries.map weight).sum

theorem sum_insert (store : Store) (weight : Bytes × Bytes → Nat) (key value : Bytes) :
    (store.insert key value).sum weight +
        (store.get? key).elim 0 (fun before => weight (key, before)) =
      store.sum weight + weight (key, value) := by
  have summed := Entries.sum_insert store.ordered weight key value
  have before : (store.get? key).elim 0 (fun before => weight (key, before)) =
      (store.entries.find? fun entry => entry.1 = key).elim 0 weight := by
    rcases found : store.entries.find? (fun entry => entry.1 = key) with _ | ⟨foundKey, value⟩
    · simp [get?, found]
    · obtain rfl : foundKey = key := by simpa using List.find?_some found
      simp [get?, found]
  rw [before]
  exact summed

theorem insert_comm {key other : Bytes} (value otherValue : Bytes) (different : key ≠ other) :
    (store.insert key value).insert other otherValue =
      (store.insert other otherValue).insert key value := by
  apply ext_get?
  intro asked
  simp only [get?_insert]
  by_cases here : asked = key
  · simp [here, different]
  · simp [here]

/-- To write a value where it stands already changes nothing. -/
theorem insert_eq_self {key value : Bytes} (stands : store.get? key = some value) :
    store.insert key value = store := by
  apply ext_get?
  intro asked
  by_cases here : asked = key
  · simp [get?_insert, here, stands]
  · simp [get?_insert, here]

/-- A store with entries written one after the other; of two with one key the last counts. -/
def insertAll (store : Store) (entries : List (Bytes × Bytes)) : Store :=
  entries.foldl (fun next entry => next.insert entry.1 entry.2) store

theorem insertAll_append (store : Store) (entries others : List (Bytes × Bytes)) :
    store.insertAll (entries ++ others) = (store.insertAll entries).insertAll others :=
  List.foldl_append

/-- Where entries of a store are written to another one, their keys are answered alike. -/
theorem get?_insertAll {entries : List (Bytes × Bytes)}
    (present : ∀ entry ∈ entries, entry ∈ store.entries) (start : Store) (key : Bytes) :
    (start.insertAll entries).get? key =
      if key ∈ entries.map Prod.fst then store.get? key else start.get? key := by
  induction entries generalizing start with
  | nil => simp [insertAll]
  | cons first rest hypothesis =>
    have presentRest : ∀ entry ∈ rest, entry ∈ store.entries := by
      intro entry member
      exact present entry (List.mem_cons_of_mem _ member)
    have presentFirst : store.get? first.1 = some first.2 :=
      get?_eq_some_iff.mpr (present first List.mem_cons_self)
    have step := hypothesis presentRest (start.insert first.1 first.2)
    rw [get?_insert] at step
    refine step.trans ?_
    by_cases atFirst : key = first.1
    · simp [atFirst, presentFirst]
    · simp only [atFirst, if_false, List.map_cons, List.mem_cons, false_or]

/-- A store is what its entries make of the empty store, in whatever order they are written. -/
theorem insertAll_empty {entries : List (Bytes × Bytes)}
    (same : ∀ entry, entry ∈ entries ↔ entry ∈ store.entries) :
    empty.insertAll entries = store := by
  apply ext_get?
  intro key
  rw [get?_insertAll fun entry member => (same entry).mp member]
  split
  · rfl
  · rename_i unwritten
    rcases found : store.get? key with _ | value
    · rfl
    · have member := (same _).mpr (get?_eq_some_iff.mp found)
      exact absurd (List.mem_map_of_mem member) unwritten

/-- Every key begins with the empty front. -/
theorem scan_nil (store : Store) : store.scan [] = store.entries := by
  have dropped : store.entries.dropWhile (fun entry => decide (entry.1 < [])) = store.entries := by
    apply List.dropWhile_eq_self_iff.mpr
    intro nonempty
    simp
  have taken : store.entries.takeWhile (fun entry => List.isPrefixOf [] entry.1) =
      store.entries := by
    apply List.takeWhile_eq_self_iff.mpr
    intro entry member
    simp
  rw [scan, dropped, taken]

end Store

end DeviceRegistry
