import Mathlib
import DeviceRegistry.Device
import DeviceRegistry.Message
/-!
# Editing lists of channels

An assigned channel keeps the place of the first one with its id, or comes last. A
removed channel leaves its place to the last one, so that a removal is a permutation of
the list without the channel.

Where no two channels have one id, a list of channels is a map from ids to quantities,
and the edits are the updates of that map. Where ids repeat, what can be told is how often
each of them occurs.
-/

namespace DeviceRegistry

namespace Channel

variable {channels : List Channel}

/-- No two channels have one id. -/
def DistinctIds (channels : List Channel) : Prop :=
  (channels.map Channel.id).Nodup

theorem ids_assign (channel : Channel) (channels : List Channel) :
    (assign channel channels).map Channel.id =
      if channel.id ∈ channels.map Channel.id then channels.map Channel.id
      else channels.map Channel.id ++ [channel.id] := by
  induction channels with
  | nil => simp [assign]
  | cons first rest hypothesis =>
    by_cases same : first.id = channel.id
    · simp [assign, same]
    · have different : ¬channel.id = first.id := fun equal => same equal.symm
      simp only [assign, same, if_false, List.map_cons, hypothesis, List.mem_cons, different,
        false_or]
      split <;> rfl

theorem DistinctIds.assign (distinct : DistinctIds channels) (channel : Channel) :
    DistinctIds (assign channel channels) := by
  rw [DistinctIds, ids_assign]
  split
  · exact distinct
  · rename_i new
    rw [← List.concat_eq_append, List.nodup_concat]
    exact ⟨new, distinct⟩

/-- An assigned channel is the first one with its id, and no other id is touched. -/
theorem find?_assign (channel : Channel) (channels : List Channel) (id : String) :
    find? (assign channel channels) id =
      if id = channel.id then some channel else find? channels id := by
  induction channels with
  | nil =>
    by_cases same : channel.id = id
    · simp [assign, find?, same]
    · simp [assign, find?, same, Ne.symm same]
  | cons first rest hypothesis =>
    simp only [find?] at hypothesis ⊢
    by_cases atFirst : first.id = channel.id
    · by_cases same : channel.id = id
      · subst same
        simp [assign, atFirst]
      · simp [assign, atFirst, same, Ne.symm same]
    · by_cases same : first.id = id
      · have other : ¬id = channel.id := fun equal => atFirst (same.trans equal)
        simp [assign, same, other]
      · simp [assign, atFirst, same, hypothesis]

/-- Taking an item out and closing the gap permutes the items that are left. -/
theorem swapRemove_perm {index : Nat} (inside : index < channels.length) :
    (swapRemove channels index).Perm (channels.eraseIdx index) := by
  have nonempty : channels ≠ [] := List.ne_nil_of_length_pos (Nat.zero_lt_of_lt inside)
  obtain ⟨front, last, rfl⟩ : ∃ front last, channels = front ++ [last] :=
    ⟨_, _, (List.dropLast_append_getLast nonempty).symm⟩
  simp only [swapRemove, List.getLast?_append, List.getLast?_singleton, Option.some_or]
  rw [List.length_append, List.length_singleton] at inside
  rcases Nat.lt_or_ge index front.length with inFront | atEnd
  · rw [List.set_append_left _ _ inFront, List.dropLast_concat,
      List.eraseIdx_append_of_lt_length inFront]
    exact (List.set_perm_cons_eraseIdx inFront last).trans
      (List.perm_append_singleton last _).symm
  · obtain rfl : index = front.length := by omega
    simp [List.eraseIdx_append_of_length_le]

/-- The last item comes to the freed place, unless it is the one that goes. -/
theorem getElem?_swapRemove {index : Nat} (inside : index < channels.length) (position : Nat) :
    (swapRemove channels index)[position]? =
      if position < channels.length - 1 then
        if position = index then channels.getLast? else channels[position]?
      else none := by
  have nonempty : channels ≠ [] := List.ne_nil_of_length_pos (Nat.zero_lt_of_lt inside)
  rw [swapRemove, List.getLast?_eq_some_getLast nonempty]
  simp only [List.getElem?_dropLast, List.length_set]
  split
  · rw [List.getElem?_set]
    by_cases here : position = index
    · simp [here, inside]
    · simp [here, Ne.symm here]
  · rfl

/-! ## The first channel with an id -/

/-- The first channel with an id, and the place where it stands. -/
structure StandsFirst (channels : List Channel) (id : String) (index : Nat) (channel : Channel) :
    Prop where
  here : channels[index]? = some channel
  named : channel.id = id
  first : ∀ earlier < index, ∀ other, channels[earlier]? = some other → other.id ≠ id

theorem exists_standsFirst {id : String} {channel : Channel}
    (found : find? channels id = some channel) :
    ∃ index, StandsFirst channels id index channel := by
  rcases List.find?_eq_some_iff_getElem.mp found with ⟨named, index, inside, same, firstOne⟩
  refine ⟨index, ?_, by simpa using named, ?_⟩
  · rw [List.getElem?_eq_getElem inside, same]
  · intro earlier below other there
    rcases List.getElem?_eq_some_iff.mp there with ⟨-, rfl⟩
    simpa using firstOne earlier below

namespace StandsFirst

variable {id : String} {index : Nat} {channel known : Channel}

theorem remove_eq (stands : StandsFirst channels id index channel) :
    remove channels id = swapRemove channels index := by
  rcases List.getElem?_eq_some_iff.mp stands.here with ⟨inside, same⟩
  have located : channels.findIdx? (fun channel => channel.id = id) = some index := by
    apply List.findIdx?_eq_some_iff_getElem.mpr
    refine ⟨inside, by simpa [same] using stands.named, ?_⟩
    intro earlier below
    have different := stands.first earlier below _ (List.getElem?_eq_getElem (below.trans inside))
    simpa using different
  rw [remove, located]

theorem cons_remove_perm (stands : StandsFirst channels id index channel) :
    (channel :: remove channels id).Perm channels := by
  rcases List.getElem?_eq_some_iff.mp stands.here with ⟨inside, rfl⟩
  rw [stands.remove_eq]
  refine ((swapRemove_perm inside).cons channels[index]).trans ?_
  exact List.getElem_cons_eraseIdx_perm inside

/-- Nothing but the quantity of the first channel changes, and it stays where it stands. -/
theorem assign_eq (stands : StandsFirst channels channel.id index known) :
    assign channel channels = channels.set index { known with quantity := channel.quantity } := by
  induction channels generalizing index with
  | nil => simpa using stands.here
  | cons head rest hypothesis =>
    cases index with
    | zero =>
      obtain rfl : head = known := by simpa using stands.here
      simp [assign, stands.named]
    | succ index =>
      have different : head.id ≠ channel.id := stands.first 0 (Nat.succ_pos index) head rfl
      have later : StandsFirst rest channel.id index known := by
        refine ⟨by simpa using stands.here, stands.named, ?_⟩
        intro earlier below other there
        exact stands.first (earlier + 1) (Nat.succ_lt_succ below) other (by simpa using there)
      simp [assign, different, hypothesis later]

end StandsFirst

theorem assign_of_missing {channel : Channel}
    (missing : ∀ other ∈ channels, other.id ≠ channel.id) :
    assign channel channels = channels ++ [channel] := by
  induction channels with
  | nil => rfl
  | cons head rest hypothesis =>
    have different : head.id ≠ channel.id := missing head List.mem_cons_self
    have others := hypothesis fun other member => missing other (List.mem_cons_of_mem _ member)
    simp [assign, different, others]

/-- A channel that has been assigned is the first with its id, and assigning it changes nothing. -/
theorem assign_assign (channel : Channel) (channels : List Channel) :
    assign channel (assign channel channels) = assign channel channels := by
  induction channels with
  | nil => simp [assign]
  | cons head rest hypothesis =>
    by_cases same : head.id = channel.id
    · simp [assign, same]
    · simp [assign, same, hypothesis]

/-- What is left of a list when a channel has gone and the last one has come to its place. -/
structure TakenOut (channels : List Channel) (index : Nat) (channel : Channel)
    (left : List Channel) : Prop where
  perm : (channel :: left).Perm channels
  length : left.length + 1 = channels.length
  /-- The freed place is there unless it was the last one. -/
  freed : index < left.length → left[index]? = channels.getLast?
  others : ∀ position < left.length, position ≠ index → left[position]? = channels[position]?

theorem StandsFirst.takenOut {id : String} {index : Nat} {channel : Channel}
    (stands : StandsFirst channels id index channel) :
    TakenOut channels index channel (remove channels id) := by
  have perm := stands.cons_remove_perm
  have length : (remove channels id).length + 1 = channels.length := by
    simpa using perm.length_eq
  have inside : index < channels.length := (List.getElem?_eq_some_iff.mp stands.here).1
  have placed := getElem?_swapRemove inside
  rw [← stands.remove_eq] at placed
  refine ⟨perm, length, ?_, ?_⟩
  · intro below
    have stillThere : index < channels.length - 1 := by omega
    simp [placed, stillThere]
  · intro position below different
    have stillThere : position < channels.length - 1 := by omega
    simp [placed, stillThere, different]

/-- A removed channel and the channels that are left are what there was. -/
theorem cons_remove_perm {id : String} {channel : Channel}
    (found : find? channels id = some channel) : (channel :: remove channels id).Perm channels := by
  rcases exists_standsFirst found with ⟨index, stands⟩
  exact stands.cons_remove_perm

theorem remove_of_find?_eq_none {id : String} (missing : find? channels id = none) :
    remove channels id = channels := by
  have located : channels.findIdx? (fun channel => channel.id = id) = none := by
    rw [List.findIdx?_eq_none_iff]
    simpa [find?] using missing
  rw [remove, located]

/-! ## Distinct ids -/

theorem DistinctIds.remove (distinct : DistinctIds channels) (id : String) :
    DistinctIds (remove channels id) := by
  rcases found : find? channels id with _ | channel
  · rw [remove_of_find?_eq_none found]
    exact distinct
  · have all : DistinctIds (channel :: Channel.remove channels id) :=
      ((cons_remove_perm found).map Channel.id).nodup_iff.mpr distinct
    exact (List.nodup_cons.mp all).2

/-- Where ids are distinct, a channel is found exactly if it is listed. -/
theorem find?_eq_some_iff (distinct : DistinctIds channels) {id : String} {channel : Channel} :
    find? channels id = some channel ↔ channel ∈ channels ∧ channel.id = id := by
  constructor
  · intro found
    exact ⟨List.mem_of_find?_eq_some found, by simpa using List.find?_some found⟩
  · rintro ⟨member, named⟩
    rcases found : find? channels id with _ | other
    · simp only [find?, List.find?_eq_none] at found
      exact absurd named (by simpa using found channel member)
    · have otherMember := List.mem_of_find?_eq_some found
      have otherNamed : other.id = id := by simpa using List.find?_some found
      have sameId : other.id = channel.id := otherNamed.trans named.symm
      rw [List.inj_on_of_nodup_map distinct otherMember member sameId]

/-- Where ids are distinct, a removed id is gone and no other id is touched. -/
theorem find?_remove (distinct : DistinctIds channels) (id other : String) :
    find? (remove channels id) other = if other = id then none else find? channels other := by
  rcases found : find? channels id with _ | channel
  · rw [remove_of_find?_eq_none found]
    split
    · rename_i same
      rw [same, found]
    · rfl
  · have perm := cons_remove_perm found
    have all : DistinctIds (channel :: remove channels id) :=
      (perm.map Channel.id).nodup_iff.mpr distinct
    rcases (find?_eq_some_iff distinct).mp found with ⟨-, named⟩
    have gone := (List.nodup_cons.mp all).1
    split
    · rename_i same
      rcases left : find? (remove channels id) other with _ | leftover
      · rfl
      · rcases (find?_eq_some_iff (distinct.remove id)).mp left with ⟨member, leftoverNamed⟩
        refine absurd (List.mem_map.mpr ⟨leftover, member, ?_⟩) gone
        rw [leftoverNamed, same, named]
    · rename_i different
      ext candidate
      rw [find?_eq_some_iff (distinct.remove id), find?_eq_some_iff distinct, ← perm.mem_iff,
        List.mem_cons]
      constructor
      · rintro ⟨member, candidateNamed⟩
        exact ⟨Or.inr member, candidateNamed⟩
      · rintro ⟨rfl | member, candidateNamed⟩
        · exact absurd (candidateNamed.symm.trans named) different
        · exact ⟨member, candidateNamed⟩

end Channel

theorem Device.id_of_channel? {device : Device} {id : String} {channel : Channel}
    (found : device.channel? id = some channel) : channel.id = id := by
  simpa using List.find?_some found

/-- A list of channels after an update. -/
def ChannelUpdate.apply (update : ChannelUpdate) (channels : List Channel) : List Channel :=
  match update.action with
  | .assign => Channel.assign ⟨update.id, update.quantity⟩ channels
  | .remove => Channel.remove channels update.id
  | .unknown _ => channels

theorem Channel.DistinctIds.apply {channels : List Channel} (distinct : DistinctIds channels)
    (update : ChannelUpdate) : DistinctIds (update.apply channels) := by
  unfold ChannelUpdate.apply
  split
  · exact distinct.assign _
  · exact distinct.remove _
  · exact distinct

/-! ## How often an id occurs -/

namespace Channel

variable {channels : List Channel}

/-- The number of channels with an id. -/
def count (channels : List Channel) (id : String) : Nat :=
  (channels.map Channel.id).count id

theorem find?_eq_none_iff_count {id : String} :
    find? channels id = none ↔ count channels id = 0 := by
  simp only [find?, count, List.find?_eq_none, decide_eq_true_eq, List.count_eq_zero, List.mem_map,
    not_exists, not_and]

theorem count_assign (channel : Channel) (channels : List Channel) (id : String) :
    count (assign channel channels) id =
      if channel.id = id then max 1 (count channels id) else count channels id := by
  unfold count
  rw [ids_assign]
  by_cases listed : channel.id ∈ channels.map Channel.id
  · rw [if_pos listed]
    split
    · rename_i same
      rw [same] at listed
      exact (max_eq_right (List.count_pos_iff.mpr listed)).symm
    · rfl
  · rw [if_neg listed, List.count_append, List.count_singleton, beq_eq_decide]
    by_cases same : channel.id = id
    · rw [same] at listed ⊢
      simp [List.count_eq_zero_of_not_mem listed]
    · simp [same]

/-- One channel with the id goes, if there is any. -/
theorem count_remove (channels : List Channel) (removed id : String) :
    count (remove channels removed) id =
      if removed = id then count channels id - 1 else count channels id := by
  rcases found : find? channels removed with _ | channel
  · rw [remove_of_find?_eq_none found]
    split
    · rename_i same
      rw [← same, find?_eq_none_iff_count.mp found]
    · rfl
  · have named : channel.id = removed := by simpa using List.find?_some found
    have counted := ((cons_remove_perm found).map Channel.id).count_eq id
    rw [List.map_cons, List.count_cons, named, beq_eq_decide] at counted
    unfold count
    rw [← counted]
    by_cases same : removed = id
    · simp [same]
    · simp [same]

end Channel

namespace ChannelUpdate

/-- Whether an update assigns or removes channels with an id. -/
def edits (update : ChannelUpdate) (id : String) : Bool :=
  update.id = id && (update.action = .assign || update.action = .remove)

/-- The last update that assigns or removes channels with an id. -/
def last? (updates : List ChannelUpdate) (id : String) : Option ChannelUpdate :=
  updates.reverse.find? fun update => update.edits id

/-- The number of channels with an id after an update. -/
def recount (update : ChannelUpdate) (id : String) (count : Nat) : Nat :=
  if update.id = id then
    match update.action with
    | .assign => max 1 count
    | .remove => count - 1
    | .unknown _ => count
  else count

variable {id : String} {count : Nat}

theorem count_apply (update : ChannelUpdate) (channels : List Channel) (id : String) :
    Channel.count (update.apply channels) id = update.recount id (Channel.count channels id) := by
  unfold apply recount
  cases update.action with
  | assign => exact Channel.count_assign _ _ _
  | remove => exact Channel.count_remove _ _ _
  | unknown name => simp

theorem count_foldl_apply (updates : List ChannelUpdate) (channels : List Channel) (id : String) :
    Channel.count (updates.foldl (fun before update => update.apply before) channels) id =
      updates.foldl (fun before update => update.recount id before)
        (Channel.count channels id) := by
  induction updates generalizing channels with
  | nil => rfl
  | cons first rest hypothesis => rw [List.foldl_cons, hypothesis, count_apply, List.foldl_cons]

theorem recount_of_not_edits {update : ChannelUpdate} (other : update.edits id = false) :
    update.recount id count = count := by
  unfold recount
  split
  · rename_i same
    cases action : update.action with
    | assign => simp [edits, same, action] at other
    | remove => simp [edits, same, action] at other
    | unknown name => rfl
  · rfl

theorem recount_of_remove {update : ChannelUpdate} (here : update.id = id)
    (removes : update.action = .remove) : update.recount id count = count - 1 := by
  rw [recount, if_pos here, removes]

/-- Only an assignment makes a first channel with an id. -/
theorem recount_zero {update : ChannelUpdate}
    (unset : ¬(update.id = id ∧ update.action = .assign)) : update.recount id 0 = 0 := by
  unfold recount
  split
  · rename_i here
    cases action : update.action with
    | assign => exact absurd ⟨here, action⟩ unset
    | remove => rfl
    | unknown name => rfl
  · rfl

/-- Edits make no second channel with an id. -/
theorem recount_le_one (update : ChannelUpdate) (single : count ≤ 1) :
    update.recount id count ≤ 1 := by
  unfold recount
  split
  · split <;> omega
  · exact single

theorem foldl_recount_le_one (updates : List ChannelUpdate) (single : count ≤ 1) :
    updates.foldl (fun before update => update.recount id before) count ≤ 1 := by
  induction updates generalizing count with
  | nil => exact single
  | cons first rest hypothesis => exact hypothesis (first.recount_le_one single)

theorem foldl_recount_of_not_edits {updates : List ChannelUpdate}
    (others : ∀ update ∈ updates, update.edits id = false) :
    updates.foldl (fun before update => update.recount id before) count = count := by
  induction updates with
  | nil => rfl
  | cons first rest hypothesis =>
    rw [List.foldl_cons, recount_of_not_edits (others first List.mem_cons_self)]
    exact hypothesis fun update member => others update (List.mem_cons_of_mem _ member)

theorem foldl_recount_zero {updates : List ChannelUpdate}
    (unset : ∀ update ∈ updates, ¬(update.id = id ∧ update.action = .assign)) :
    updates.foldl (fun before update => update.recount id before) 0 = 0 := by
  induction updates with
  | nil => rfl
  | cons first rest hypothesis =>
    rw [List.foldl_cons, recount_zero (unset first List.mem_cons_self)]
    exact hypothesis fun update member => unset update (List.mem_cons_of_mem _ member)

/-- A single channel is gone once the last edit of its id has been its removal. -/
theorem foldl_recount_eq_zero {updates : List ChannelUpdate} (single : count ≤ 1)
    (removed : (last? updates id).map action = some .remove) :
    updates.foldl (fun before update => update.recount id before) count = 0 := by
  rcases Option.map_eq_some_iff.mp removed with ⟨removal, found, removes⟩
  rcases List.find?_eq_some_iff_append.mp found with ⟨edits, later, earlier, reversed, others⟩
  have here : removal.id = id := by
    simp only [ChannelUpdate.edits, Bool.and_eq_true, decide_eq_true_eq] at edits
    exact edits.1
  have split : updates = earlier.reverse ++ removal :: later.reverse := by
    rw [← List.reverse_reverse updates, reversed]
    simp
  -- Up to the removal there is at most one channel, and after it nothing touches the id.
  have before : earlier.reverse.foldl (fun before update => update.recount id before) count ≤ 1 :=
    foldl_recount_le_one earlier.reverse single
  rw [split, List.foldl_append, List.foldl_cons, recount_of_remove here removes,
    foldl_recount_of_not_edits]
  · omega
  · intro update member
    simpa using others update (List.mem_reverse.mp member)

/-! ## The last edit of an id -/

theorem last?_append_singleton (earlier : List ChannelUpdate) (latest : ChannelUpdate)
    (id : String) :
    last? (earlier ++ [latest]) id = if latest.edits id then some latest else last? earlier id := by
  simp only [last?, List.reverse_append, List.reverse_singleton, List.singleton_append,
    List.find?_cons]
  cases latest.edits id <;> rfl

theorem of_last?_eq_some {updates : List ChannelUpdate} {update : ChannelUpdate}
    (found : last? updates id = some update) :
    update.id = id ∧ (update.action = .assign ∨ update.action = .remove) := by
  have edits := List.find?_some found
  simpa [ChannelUpdate.edits] using edits

/-- The channel that an edit leaves for its id. -/
def leaves? (update : ChannelUpdate) : Option Channel :=
  match update.action with
  | .assign => some ⟨update.id, update.quantity⟩
  | _ => none

/-- Where ids are distinct, an edit is seen at its own id alone. -/
theorem find?_apply {channels : List Channel} (distinct : Channel.DistinctIds channels)
    (update : ChannelUpdate) (id : String) :
    Channel.find? (update.apply channels) id =
      if update.edits id then update.leaves? else Channel.find? channels id := by
  cases action : update.action with
  | assign => simp [apply, edits, leaves?, action, Channel.find?_assign, eq_comm]
  | remove => simp [apply, edits, leaves?, action, Channel.find?_remove distinct, eq_comm]
  | unknown name => simp [apply, edits, action]

theorem distinctIds_foldl_apply {channels : List Channel}
    (distinct : Channel.DistinctIds channels) (updates : List ChannelUpdate) :
    Channel.DistinctIds (updates.foldl (fun before update => update.apply before) channels) := by
  induction updates generalizing channels with
  | nil => exact distinct
  | cons first rest hypothesis => exact hypothesis (distinct.apply first)

/-- After any edits an id is found as its last edit has left it. -/
theorem find?_foldl_apply {channels : List Channel} (distinct : Channel.DistinctIds channels)
    (updates : List ChannelUpdate) (id : String) :
    Channel.find? (updates.foldl (fun before update => update.apply before) channels) id =
      match last? updates id with
      | some update => update.leaves?
      | none => Channel.find? channels id := by
  induction updates using List.reverseRecOn with
  | nil => rfl
  | append_singleton earlier latest hypothesis =>
    have distinctBefore := distinctIds_foldl_apply distinct earlier
    rw [List.foldl_append, List.foldl_cons, List.foldl_nil, find?_apply distinctBefore, hypothesis,
      last?_append_singleton]
    cases latest.edits id <;> rfl

end ChannelUpdate

end DeviceRegistry
