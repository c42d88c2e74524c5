import Mathlib
import DeviceRegistry.Proofs.Ledger.Run
import DeviceRegistry.Proofs.Registry.Occurrence
/-!
# The log of a ledger

The log of a run has the events of the deliveries that succeed, in their order. Within a
delivery there is one event for each message. A delivery that fails adds no event, as it
leaves no trace in the store.

Log and store are therefore built together out of messages that succeed, and `Logged` says
so. What a log tells of a store is shown of one such message, and by induction of a run.
-/

namespace DeviceRegistry.Ledger

open Registry

/-- The events that a command adds to the log. -/
def Command.events (ledger : Ledger) : Command → List Event
  | fund _ _ => []
  | deliver transaction =>
    match (ledger.deliver transaction).1 with
    | .ok events => events
    | .error _ => []

/-- The events of commands one after the other. -/
def eventsFrom (ledger : Ledger) : List Command → List Event
  | [] => []
  | command :: rest => command.events ledger ++ eventsFrom (command.after ledger) rest

/-- The events of a run. -/
def log (now : Int64) (commands : List Command) : List Event :=
  eventsFrom (new now) commands

/-- The coordinates that occur in a command; a delivery that fails leaves none behind. -/
def Command.coordinates (ledger : Ledger) : Command → Set Coordinates
  | fund _ _ => ∅
  | deliver transaction =>
    match (ledger.deliver transaction).1 with
    | .ok _ => occurring ledger.store transaction.messages
    | .error _ => ∅

/-- The coordinates that occur in commands one after the other. -/
def coordinatesFrom (ledger : Ledger) : List Command → Set Coordinates
  | [] => ∅
  | command :: rest => command.coordinates ledger ∪ coordinatesFrom (command.after ledger) rest

/-- A log and the store that it belongs to. -/
inductive Logged (occur : Set Coordinates) : List Event → Store → Prop
  | start : Logged occur [] .empty
  | handled {events : List Event} {store after : Store} {message : Message} {event : Event}
      (logged : Logged occur events store) (named : namedCoordinates store message ⊆ occur)
      (succeeds : (handle message).on store = (.ok event, after)) :
      Logged occur (events ++ [event]) after

variable {occur : Set Coordinates} {events : List Event} {store after : Store} {ledger : Ledger}
  {coordinates : Coordinates}

namespace Logged

theorem sound (logged : Logged occur events store) : Sound store := by
  induction logged with
  | start => exact Sound.empty
  | @handled _ _ _ message _ _ _ succeeds hypothesis =>
    have soundAfter := hypothesis.handle message
    rw [succeeds] at soundAfter
    exact soundAfter

theorem stored (logged : Logged occur events store) : storedCoordinates store ⊆ occur := by
  induction logged with
  | start => simp [storedCoordinates_empty]
  | @handled _ before _ message _ _ named succeeds hypothesis =>
    have subset := storedCoordinates_handle_subset before message
    rw [succeeds] at subset
    exact subset.trans (Set.union_subset hypothesis named)

end Logged

theorem handleAll_cons_eq_ok {first : Message} {rest : List Message} {more : List Event}
    (succeeds : (handleAll (first :: rest)).on store = (.ok more, after)) :
    ∃ event later middle, (handle first).on store = (.ok event, middle) ∧
      (handleAll rest).on middle = (.ok later, after) ∧ more = event :: later := by
  rw [handleAll, List.mapM_cons, Operation.on_bind] at succeeds
  rcases outcome : (handle first).on store with ⟨_ | event, middle⟩
  · simp [outcome] at succeeds
  · simp only [outcome, Operation.on_bind] at succeeds
    rcases others : (handleAll rest).on middle with ⟨_ | later, last⟩
    · rw [handleAll] at others
      simp [others] at succeeds
    · rw [handleAll] at others
      simp only [others, Operation.on_pure, Prod.mk.injEq, Except.ok.injEq] at succeeds
      rcases succeeds with ⟨rfl, rfl⟩
      exact ⟨event, later, middle, rfl, others, rfl⟩

theorem Logged.handleAll {messages : List Message} {more : List Event}
    (logged : Logged occur events store) (occurs : occurring store messages ⊆ occur)
    (succeeds : (handleAll messages).on store = (.ok more, after)) :
    Logged occur (events ++ more) after := by
  induction messages generalizing events store more with
  | nil =>
    cases succeeds
    simpa using logged
  | cons first rest hypothesis =>
    rcases handleAll_cons_eq_ok succeeds with ⟨event, later, middle, done, others, rfl⟩
    have named : namedCoordinates store first ⊆ occur := by
      intro coordinates member
      exact occurs (Or.inl (Or.inr member))
    have occursLater : occurring middle rest ⊆ occur := by
      intro coordinates member
      apply occurs
      right
      rw [done]
      exact member
    have whole := hypothesis (logged.handled named done) occursLater others
    simpa using whole

theorem Logged.command (logged : Logged occur events ledger.store) (command : Command)
    (occurs : command.coordinates ledger ⊆ occur) :
    Logged occur (events ++ command.events ledger) (command.after ledger).store := by
  cases command with
  | fund address amount => simpa [Command.events, Command.after, fund] using logged
  | deliver transaction =>
    rcases outcome : (ledger.deliver transaction).1 with error | more
    · simp only [Command.events, Command.after, outcome, deliver_of_error outcome]
      simpa using logged
    · rcases deliver_eq_ok outcome with ⟨bank, store, -, handled, after⟩
      simp only [Command.coordinates, outcome] at occurs
      simp only [Command.events, Command.after, outcome, after]
      exact logged.handleAll occurs handled

theorem Logged.commands (commands : List Command) (logged : Logged occur events ledger.store)
    (occurs : coordinatesFrom ledger commands ⊆ occur) :
    Logged occur (events ++ eventsFrom ledger commands)
      (commands.foldl Command.after ledger).store := by
  induction commands generalizing ledger events with
  | nil => simpa [eventsFrom] using logged
  | cons first rest hypothesis =>
    rcases Set.union_subset_iff.mp occurs with ⟨occursFirst, occursRest⟩
    have whole := hypothesis (logged.command first occursFirst) occursRest
    simpa [eventsFrom] using whole

/-- The log of a run belongs to the store that the run ends with. -/
theorem logged_run (now : Int64) (commands : List Command)
    (occurs : coordinatesFrom (new now) commands ⊆ occur) :
    Logged occur (log now commands) (run now commands).store := by
  have nothing : Logged occur [] (new now).store := .start
  have whole := nothing.commands commands occurs
  simpa [log, run] using whole

/-! ## Listing what occurs -/

/-- The coordinates that a command names. -/
def Command.coordinatesList (ledger : Ledger) : Command → List Coordinates
  | fund _ _ => []
  | deliver transaction =>
    match (ledger.deliver transaction).1 with
    | .ok _ => occurringList ledger.store transaction.messages
    | .error _ => []

/-- The coordinates that commands name one after the other. -/
def coordinatesListFrom (ledger : Ledger) : List Command → List Coordinates
  | [] => []
  | command :: rest =>
    command.coordinatesList ledger ++ coordinatesListFrom (command.after ledger) rest

theorem storedCoordinates_handleAll_subset (store : Store) (messages : List Message) :
    storedCoordinates ((handleAll messages).on store).2 ⊆ occurring store messages := by
  induction messages generalizing store with
  | nil => exact subset_rfl
  | cons first rest hypothesis =>
    rw [after_handleAll_cons]
    rcases outcome : (handle first).on store with ⟨error | event, middle⟩
    · have stored := storedCoordinates_handle_subset store first
      rw [outcome] at stored
      exact stored.trans Set.subset_union_left
    · rw [occurring, outcome]
      exact (hypothesis middle).trans Set.subset_union_right

theorem Command.storedCoordinates_after_subset (ledger : Ledger) (command : Command) :
    storedCoordinates (command.after ledger).store ⊆
      storedCoordinates ledger.store ∪ command.coordinates ledger := by
  cases command with
  | fund address amount => exact Set.subset_union_left
  | deliver transaction =>
    rw [Command.after]
    rcases outcome : (ledger.deliver transaction).1 with error | events
    · rw [deliver_of_error outcome]
      exact Set.subset_union_left
    · rcases deliver_eq_ok outcome with ⟨bank, store, -, handled, after⟩
      have stored := storedCoordinates_handleAll_subset ledger.store transaction.messages
      rw [handled] at stored
      simp only [after, Command.coordinates, outcome]
      exact stored.trans Set.subset_union_right

theorem Command.stored_or_mem_coordinatesList {command : Command}
    (occurs : coordinates ∈ command.coordinates ledger) :
    coordinates ∈ storedCoordinates ledger.store ∨ coordinates ∈ command.coordinatesList ledger := by
  cases command with
  | fund address amount => exact absurd occurs (Set.notMem_empty _)
  | deliver transaction =>
    simp only [Command.coordinates, Command.coordinatesList] at occurs ⊢
    rcases outcome : (ledger.deliver transaction).1 with error | events
    · simp only [outcome] at occurs
      exact absurd occurs (Set.notMem_empty _)
    · simp only [outcome] at occurs ⊢
      exact stored_or_mem_occurringList occurs

/-- Whatever occurs in a run was stored before or is named by a delivery that succeeds. -/
theorem stored_or_mem_coordinatesListFrom {commands : List Command}
    (occurs : coordinates ∈ coordinatesFrom ledger commands) :
    coordinates ∈ storedCoordinates ledger.store ∨
      coordinates ∈ coordinatesListFrom ledger commands := by
  induction commands generalizing ledger with
  | nil => exact absurd occurs (Set.notMem_empty _)
  | cons first rest hypothesis =>
    rw [coordinatesListFrom, List.mem_append]
    have ofFirst : coordinates ∈ first.coordinates ledger →
        coordinates ∈ storedCoordinates ledger.store ∨
          coordinates ∈ first.coordinatesList ledger ∨
            coordinates ∈ coordinatesListFrom (first.after ledger) rest := by
      intro occursFirst
      rcases Command.stored_or_mem_coordinatesList occursFirst with stands | listed
      · exact Or.inl stands
      · exact Or.inr (Or.inl listed)
    rcases occurs with now | later
    · exact ofFirst now
    · rcases hypothesis later with standsLater | listed
      · rcases first.storedCoordinates_after_subset ledger standsLater with stands | named
        · exact Or.inl stands
        · exact ofFirst named
      · exact Or.inr (Or.inr listed)

theorem mem_coordinatesListFrom_new {now : Int64} {commands : List Command}
    (occurs : coordinates ∈ coordinatesFrom (new now) commands) :
    coordinates ∈ coordinatesListFrom (new now) commands := by
  rcases stored_or_mem_coordinatesListFrom occurs with stands | listed
  · rw [new, storedCoordinates_empty] at stands
    exact absurd stands (Set.notMem_empty _)
  · exact listed

/-- The delivery that fails is not in the log, although its first message has written. -/
example : log 0 withFailure = [.deviceCreated ⟨[1]⟩ ⟨[2]⟩, .channelsUpdated ⟨[1]⟩ 1 0 0] := by
  decide +kernel

end DeviceRegistry.Ledger
