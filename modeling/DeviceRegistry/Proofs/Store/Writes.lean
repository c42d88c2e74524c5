import Mathlib
import DeviceRegistry.Proofs.Store
/-!
# What a store answers after any writes

The last change to a key decides what is found there. So a store that was filled and then
written to answers like the map in which, for each key, only its last change counts: by
look-ups, by the number of its entries, and by scans.

A scan reads the entries from the first key that is not below a front to the first one that
does not begin with it. It finds every key with that front because such keys lie side by
side. A key between the front and a key that begins with it begins with the front itself,
and no key with the front is below it.
-/

namespace DeviceRegistry

namespace Bytes

/-- Keys with a common front are neighbours in the order. -/
theorem prefix_of_between {front key other : Bytes} (notBelow : ¬key < front)
    (below : key < other) (begins : front <+: other) : front <+: key := by
  induction front generalizing key other with
  | nil => exact List.nil_prefix
  | cons byte front hypothesis =>
    rcases begins with ⟨tail, rfl⟩
    cases key with
    | nil => exact absurd (List.nil_lt_cons byte front) notBelow
    | cons first rest =>
      simp only [List.cons_lt_cons_iff, not_or, not_and] at notBelow
      rcases List.cons_lt_cons_iff.mp below with firstBelow | ⟨rfl, restBelow⟩
      · exact absurd firstBelow notBelow.1
      · apply List.cons_prefix_cons.mpr
        exact ⟨rfl, hypothesis (notBelow.2 rfl) restBelow (List.prefix_append front tail)⟩

end Bytes

/-- Where what is taken comes before what is not, taking while it lasts takes everything. -/
theorem takeWhile_eq_filter {α : Type} {taken : α → Bool} {items : List α}
    (first : items.Pairwise fun left right => taken right = true → taken left = true) :
    items.takeWhile taken = items.filter taken := by
  induction items with
  | nil => rfl
  | cons item rest hypothesis =>
    rcases List.pairwise_cons.mp first with ⟨before, firstRest⟩
    by_cases here : taken item = true
    · rw [List.takeWhile_cons_of_pos here, List.filter_cons_of_pos here, hypothesis firstRest]
    · have none : rest.filter taken = [] := by
        apply List.filter_eq_nil_iff.mpr
        intro other member there
        exact here (before other member there)
      rw [List.takeWhile_cons_of_neg here, List.filter_cons_of_neg here, none]

/-- In ascending entries, those below a front are all dropped. -/
theorem Entries.Ordered.not_lt_of_mem_dropWhile {entries : List (Bytes × Bytes)}
    (ordered : Ordered entries) {front : Bytes} {entry : Bytes × Bytes}
    (member : entry ∈ entries.dropWhile fun entry => entry.1 < front) : ¬entry.1 < front := by
  induction entries with
  | nil => simp at member
  | cons first rest hypothesis =>
    by_cases below : first.1 < front
    · rw [List.dropWhile_cons_of_pos (by simpa using below)] at member
      exact hypothesis ordered.of_cons member
    · rw [List.dropWhile_cons_of_neg (by simpa using below)] at member
      rcases List.mem_cons.mp member with rfl | member
      · exact below
      · intro otherBelow
        exact below (List.lt_trans (List.rel_of_pairwise_cons ordered member) otherBelow)

/-! ## Single changes -/

namespace Change

/-- The key that a change is about. -/
def key : Change → Bytes
  | put key _ => key
  | delete key => key

/-- What a change leaves under its key. -/
def value? : Change → Option Bytes
  | put _ value => some value
  | delete _ => none

/-- What changes leave under a key, where nothing was before: the last of them counts. -/
def last? (changes : List Change) (key : Bytes) : Option Bytes :=
  (changes.reverse.find? fun change => change.key = key).bind value?

theorem last?_append_singleton (changes : List Change) (change : Change) (key : Bytes) :
    last? (changes ++ [change]) key =
      if change.key = key then change.value? else last? changes key := by
  rw [last?, List.reverse_append, List.reverse_singleton, List.singleton_append, List.find?_cons]
  by_cases here : change.key = key
  · simp [here]
  · simp [here, last?]

end Change

/-- A way to write to a store. -/
inductive Write where
  | put (key value : Bytes)
  | delete (key : Bytes)
  /-- Several changes at once, which may be about the same keys. -/
  | batch (changes : List Change)
deriving DecidableEq, Repr

/-- The single changes of a write, in their order. -/
def Write.changes : Write → List Change
  | put key value => [.put key value]
  | delete key => [.delete key]
  | batch changes => changes

namespace Store

variable {store : Store}

/-- The store after a write. -/
def write (store : Store) : Write → Store
  | .put key value => store.insert key value
  | .delete key => store.erase key
  | .batch changes => store.changeAll changes

/-! ## Scans -/

/-- A scan finds the entries whose keys begin with the front, wherever they are. -/
theorem scan_eq_filter (store : Store) (front : Bytes) :
    store.scan front = store.entries.filter fun entry => front.isPrefixOf entry.1 := by
  have notBelow {entry : Bytes × Bytes} (begins : front.isPrefixOf entry.1 = true) :
      ¬entry.1 < front :=
    List.not_lt.mpr (List.IsPrefix.le (List.isPrefixOf_iff_prefix.mp begins))
  have skipped : (store.entries.takeWhile fun entry => entry.1 < front).filter
      (fun entry => front.isPrefixOf entry.1) = [] := by
    apply List.filter_eq_nil_iff.mpr
    intro entry member begins
    have below := List.mem_takeWhile_imp member
    exact notBelow begins (by simpa using below)
  have neighbours : (store.entries.dropWhile fun entry => entry.1 < front).Pairwise
      fun left right => front.isPrefixOf right.1 = true → front.isPrefixOf left.1 = true := by
    have ascending := store.ordered.sublist (List.dropWhile_sublist fun entry => entry.1 < front)
    apply ascending.imp_of_mem
    intro left right member _ below begins
    rw [List.isPrefixOf_iff_prefix] at begins ⊢
    exact Bytes.prefix_of_between (store.ordered.not_lt_of_mem_dropWhile member) below begins
  calc store.scan front
      = (store.entries.dropWhile fun entry => entry.1 < front).filter
          fun entry => front.isPrefixOf entry.1 := takeWhile_eq_filter neighbours
    _ = ((store.entries.takeWhile fun entry => entry.1 < front) ++
          store.entries.dropWhile fun entry => entry.1 < front).filter
          fun entry => front.isPrefixOf entry.1 := by
        rw [List.filter_append, skipped, List.nil_append]
    _ = store.entries.filter fun entry => front.isPrefixOf entry.1 := by
        rw [List.takeWhile_append_dropWhile]

example :
    (ofEntries [([1, 255], [1]), ([1], [2]), ([1, 255, 0], [3]), ([2], [4])]).scan [1, 255] =
      [([1, 255], [1]), ([1, 255, 0], [3])] := by
  decide

theorem scan_ascends (store : Store) (front : Bytes) :
    (store.scan front).Pairwise fun left right => left.1 < right.1 := by
  rw [scan_eq_filter]
  exact List.Pairwise.filter _ store.ordered

theorem mem_scan_iff {front key value : Bytes} :
    (key, value) ∈ store.scan front ↔ front <+: key ∧ store.get? key = some value := by
  rw [scan_eq_filter, List.mem_filter, List.isPrefixOf_iff_prefix, get?_eq_some_iff, and_comm]

/-! ## The number of entries -/

/-- As many entries are counted as there are keys with a value. -/
theorem size_eq_ncard (store : Store) :
    {key | store.get? key ≠ none}.Finite ∧ store.size = {key | store.get? key ≠ none}.ncard := by
  have keys : {key | store.get? key ≠ none} =
      ((store.entries.map Prod.fst).toFinset : Set Bytes) := by
    ext key
    simp [Option.ne_none_iff_exists', get?_eq_some_iff]
  rw [keys]
  refine ⟨Finset.finite_toSet _, ?_⟩
  rw [Set.ncard_coe_finset, List.toFinset_card_of_nodup store.nodup_keys, List.length_map, size]

theorem isEmpty_eq_true_iff : store.isEmpty = true ↔ ∀ key, store.get? key = none := by
  rw [isEmpty, List.isEmpty_iff]
  constructor
  · intro noEntries key
    simp [get?, noEntries]
  · intro noAnswers
    apply List.eq_nil_iff_forall_not_mem.mpr
    rintro ⟨key, value⟩ member
    have found := get?_eq_some_iff.mpr member
    rw [noAnswers key] at found
    cases found

/-! ## Writes -/

theorem get?_change (store : Store) (change : Change) (key : Bytes) :
    (store.change change).get? key =
      if change.key = key then change.value? else store.get? key := by
  cases change with
  | put written value => simp only [Store.change, get?_insert, Change.key, Change.value?, eq_comm]
  | delete removed => simp only [Store.change, get?_erase, Change.key, Change.value?, eq_comm]

theorem changeAll_append_singleton (store : Store) (changes : List Change) (change : Change) :
    store.changeAll (changes ++ [change]) = (store.changeAll changes).change change :=
  List.foldl_append

/-- Changes leave under a key what the last of them that is about it has left there. -/
theorem get?_changeAll (changes : List Change) (key : Bytes) :
    (empty.changeAll changes).get? key = Change.last? changes key := by
  induction changes using List.reverseRecOn with
  | nil => rfl
  | append_singleton changes change hypothesis =>
    rw [changeAll_append_singleton, get?_change, hypothesis, Change.last?_append_singleton]

/-- The entries of a store are written one by one, and a write is what its changes are. -/
theorem foldl_write (entries : List (Bytes × Bytes)) (writes : List Write) :
    writes.foldl write (ofEntries entries) =
      empty.changeAll (entries.map (fun entry => .put entry.1 entry.2) ++
        writes.flatMap Write.changes) := by
  have single : write = fun store write => store.changeAll write.changes := by
    funext store write
    cases write <;> rfl
  rw [changeAll, List.foldl_append, List.foldl_map, List.foldl_flatMap, single]
  rfl

/-- Whatever was written to a store, each key has what its last change has left. -/
theorem answers_of_writes (entries : List (Bytes × Bytes)) (writes : List Write) :
    let store := writes.foldl write (ofEntries entries)
    let last? := Change.last?
      (entries.map (fun entry => .put entry.1 entry.2) ++ writes.flatMap Write.changes)
    (∀ key, store.get? key = last? key) ∧
    (∀ key, store.contains key = (last? key).isSome) ∧
    ({key | last? key ≠ none}.Finite ∧ store.size = {key | last? key ≠ none}.ncard) ∧
    (store.isEmpty = true ↔ ∀ key, last? key = none) ∧
    ∀ front, ((store.scan front).Pairwise fun left right => left.1 < right.1) ∧
      ∀ key value, (key, value) ∈ store.scan front ↔ front <+: key ∧ last? key = some value := by
  intro store last?
  have answers : ∀ key, store.get? key = last? key := by
    intro key
    exact (congrArg (get? · key) (foldl_write entries writes)).trans (get?_changeAll _ key)
  refine ⟨answers, ?_, ?_, ?_, ?_⟩
  · intro key
    rw [contains_eq_isSome_get?, answers]
  · simpa only [answers] using store.size_eq_ncard
  · simpa only [answers] using store.isEmpty_eq_true_iff
  · intro front
    refine ⟨store.scan_ascends front, ?_⟩
    intro key value
    rw [mem_scan_iff, answers]

end Store

end DeviceRegistry
