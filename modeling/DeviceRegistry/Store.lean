import DeviceRegistry.Bytes
/-!
# The key-value store

A finite map from byte strings to byte strings, held as the list of its entries in
strictly ascending order of their keys. An entry list of that kind is determined by
the map, so that two stores with equal contents are equal.

The keys with a common front are neighbours in the order. A scan therefore skips the
keys below the front and stops at the first key that does not begin with it.
-/

namespace DeviceRegistry

namespace Entries

/-- Writes an entry at its place, over an entry with the same key. -/
def insert (key value : Bytes) : List (Bytes × Bytes) → List (Bytes × Bytes)
  | [] => [(key, value)]
  | entry :: rest =>
    if key < entry.1 then (key, value) :: entry :: rest
    else if key = entry.1 then (key, value) :: rest
    else entry :: insert key value rest

/-- The keys ascend strictly. -/
def Ordered (entries : List (Bytes × Bytes)) : Prop :=
  entries.Pairwise fun left right => left.1 < right.1

theorem key_eq_or_mem_of_mem_insert {key value : Bytes} {entries : List (Bytes × Bytes)}
    {entry : Bytes × Bytes} (member : entry ∈ insert key value entries) :
    entry.1 = key ∨ entry ∈ entries := by
  induction entries with
  | nil =>
    simp only [insert, List.mem_singleton] at member
    exact Or.inl (by rw [member])
  | cons first rest hypothesis =>
    simp only [insert] at member
    split at member
    · rcases List.mem_cons.mp member with rfl | member
      · exact Or.inl rfl
      · exact Or.inr member
    · split at member
      · rcases List.mem_cons.mp member with rfl | member
        · exact Or.inl rfl
        · exact Or.inr (List.mem_cons_of_mem _ member)
      · rcases List.mem_cons.mp member with rfl | member
        · exact Or.inr List.mem_cons_self
        · rcases hypothesis member with same | member
          · exact Or.inl same
          · exact Or.inr (List.mem_cons_of_mem _ member)

theorem Ordered.insert {entries : List (Bytes × Bytes)} (ordered : Ordered entries)
    (key value : Bytes) : Ordered (insert key value entries) := by
  induction entries with
  | nil => exact List.pairwise_singleton _ _
  | cons first rest hypothesis =>
    have firstBelow : ∀ {entry : Bytes × Bytes}, entry ∈ rest → first.1 < entry.1 :=
      List.rel_of_pairwise_cons ordered
    have restOrdered := ordered.of_cons
    simp only [Entries.insert]
    split
    · rename_i keyBelow
      refine List.Pairwise.cons ?_ ordered
      intro entry member
      rcases List.mem_cons.mp member with rfl | member
      · exact keyBelow
      · exact List.lt_trans keyBelow (firstBelow member)
    · split
      · rename_i same
        refine List.Pairwise.cons ?_ restOrdered
        intro entry member
        simpa [same] using firstBelow member
      · rename_i notBelow different
        refine List.Pairwise.cons ?_ (hypothesis restOrdered)
        intro entry member
        rcases key_eq_or_mem_of_mem_insert member with same | member
        · rcases Std.lt_trichotomy key first.1 with below | equal | above
          · exact absurd below notBelow
          · exact absurd equal different
          · simpa [same] using above
        · exact firstBelow member

/-- A written entry is found, and every other key is looked up as before. -/
theorem find?_insert (key value other : Bytes) (entries : List (Bytes × Bytes)) :
    (insert key value entries).find? (fun entry => entry.1 = other) =
      if other = key then some (key, value)
      else entries.find? (fun entry => entry.1 = other) := by
  induction entries with
  | nil =>
    by_cases same : other = key
    · simp [insert, same]
    · simp [insert, same, Ne.symm same]
  | cons first rest hypothesis =>
    simp only [insert]
    split
    · by_cases same : other = key
      · simp [same]
      · simp [List.find?_cons, same, Ne.symm same]
    · split
      · rename_i atFirst
        by_cases same : other = key
        · simp [same]
        · simp [same, Ne.symm same, ← atFirst]
      · rename_i different
        by_cases same : other = key
        · subst same
          simp [Ne.symm different, hypothesis]
        · simp [List.find?_cons, same, hypothesis]

end Entries

/-- A change of a store. -/
inductive Change where
  | put (key value : Bytes)
  | delete (key : Bytes)
deriving DecidableEq, Repr

/-- A finite map from byte strings to byte strings. -/
structure Store where
  entries : List (Bytes × Bytes)
  ordered : Entries.Ordered entries
deriving DecidableEq, Repr

namespace Store

def empty : Store := ⟨[], List.Pairwise.nil⟩

instance : Inhabited Store := ⟨empty⟩

def get? (store : Store) (key : Bytes) : Option Bytes :=
  (store.entries.find? fun entry => entry.1 = key).map Prod.snd

def contains (store : Store) (key : Bytes) : Bool :=
  store.entries.any fun entry => entry.1 = key

def size (store : Store) : Nat :=
  store.entries.length

def isEmpty (store : Store) : Bool :=
  store.entries.isEmpty

def insert (store : Store) (key value : Bytes) : Store where
  entries := Entries.insert key value store.entries
  ordered := store.ordered.insert key value

def erase (store : Store) (key : Bytes) : Store where
  entries := store.entries.filter fun entry => entry.1 ≠ key
  ordered := List.Pairwise.filter _ store.ordered

def change (store : Store) : Change → Store
  | .put key value => store.insert key value
  | .delete key => store.erase key

def changeAll (store : Store) (changes : List Change) : Store :=
  changes.foldl change store

/-- The store with the given entries; of several with one key the last one counts. -/
def ofEntries (entries : List (Bytes × Bytes)) : Store :=
  entries.foldl (fun store entry => store.insert entry.1 entry.2) empty

/-- The entries whose keys begin with a byte string, in the order of their keys. -/
def scan (store : Store) (front : Bytes) : List (Bytes × Bytes) :=
  (store.entries.dropWhile fun entry => entry.1 < front).takeWhile fun entry =>
    front.isPrefixOf entry.1

@[simp]
theorem get?_empty (key : Bytes) : empty.get? key = none := rfl

/-- A key has the value that it was given last. -/
theorem get?_insert (store : Store) (key value other : Bytes) :
    (store.insert key value).get? other = if other = key then some value else store.get? other := by
  simp only [get?, insert, Entries.find?_insert]
  split <;> simp

/-- A key that was taken out has no value, and every other key keeps its own. -/
theorem get?_erase (store : Store) (key other : Bytes) :
    (store.erase key).get? other = if other = key then none else store.get? other := by
  by_cases same : other = key
  · subst same
    simp [get?, erase, List.find?_filter]
  · have kept : ∀ entry : Bytes × Bytes, (entry.1 ≠ key ∧ entry.1 = other) ↔ entry.1 = other :=
      fun entry => ⟨And.right, fun found => ⟨found ▸ same, found⟩⟩
    simp [get?, erase, List.find?_filter, kept, same]

/-- A store contains the keys that have a value. -/
theorem contains_eq_isSome_get? (store : Store) (key : Bytes) :
    store.contains key = (store.get? key).isSome := by
  simp only [contains, get?, Option.isSome_map]
  induction store.entries with
  | nil => rfl
  | cons first rest hypothesis =>
    by_cases found : first.1 = key
    · simp [found]
    · simpa [found] using hypothesis

end Store

end DeviceRegistry
