import Mathlib
import DeviceRegistry.Proofs.Ledger.Log
import DeviceRegistry.Proofs.Registry.Footprint
/-!
# Who has signed a change

The signers of a delivered transaction answer for all that it changes, judged by the
registry as it was before the transaction. A device may change hands between two
messages of one transaction. Then a later message is checked against the new owner, and
it is the signature of the first owner that is owed: the device has left only because
that owner gave it away in the same transaction.

So the invariant along the steps of a transaction compares each store with the first
one. Once the first owner of a device has signed, nothing more is asked of its entry.
-/

namespace DeviceRegistry.Registry

/-- What the signers of a transaction answer for. -/
structure Authorized (signers : List Address) (before after : Store) : Prop where
  /-- A device that is new has signed. -/
  registered : ∀ {address found}, (∀ home, device before address ≠ .ok home) →
    device after address = .ok found → address ∈ signers
  /-- The owner of a device has signed for a new owner and for other channels. -/
  edited : ∀ {address found}, device before address = .ok found →
    ∃ next, device after address = .ok next ∧
      (next.owner ≠ found.owner ∨ next.channels ≠ found.channels → found.owner ∈ signers)
  /-- A device has signed for what was done to its buckets. -/
  collected : ∀ {hash stored},
    bucket before hash = .ok stored ∨ bucket after hash = .ok stored →
    after.get? (StoreKey.bucket hash).bytes ≠ before.get? (StoreKey.bucket hash).bytes →
    stored.device ∈ signers
  /-- Where neither a device nor its owner has signed, its bytes are as they were. -/
  untouched : ∀ {address}, address ∉ signers →
    (∀ found, device before address = .ok found → found.owner ∉ signers) →
    after.get? (StoreKey.device address).bytes = before.get? (StoreKey.device address).bytes ∧
      ∀ {hash stored}, bucket before hash = .ok stored ∨ bucket after hash = .ok stored →
        stored.device = address →
        after.get? (StoreKey.bucket hash).bytes = before.get? (StoreKey.bucket hash).bytes

variable {signers : List Address} {occur : Set Coordinates} {before now next : Store}

/-- The steps that a transaction may take. -/
def signed (signers : List Address) (occur : Set Coordinates) : Mark → Prop
  | .entry _ authority => authority ∈ signers
  | .reading coordinates => coordinates.device ∈ signers ∧ coordinates ∈ occur

theorem authority_of_signed {mark : Mark} (allowed : signed signers occur mark) :
    mark.authority ∈ signers := by
  cases mark with
  | entry address authority => exact allowed
  | reading coordinates => exact allowed.1

/-- What a store that was reached in signed steps has in common with the first one. -/
structure Traced (signers : List Address) (occur : Set Coordinates) (before now : Store) :
    Prop where
  sound : Sound now
  stored : storedCoordinates now ⊆ occur
  entry : ∀ address,
    now.get? (StoreKey.device address).bytes = before.get? (StoreKey.device address).bytes ∨
      address ∈ signers ∨ ∃ found, device before address = .ok found ∧ found.owner ∈ signers
  kept : ∀ {address found}, device before address = .ok found →
    ∃ next, device now address = .ok next ∧
      (next.owner = found.owner ∧ next.channels = found.channels ∨ found.owner ∈ signers)
  bucket : ∀ hash,
    now.get? (StoreKey.bucket hash).bytes = before.get? (StoreKey.bucket hash).bytes ∨
      ∀ stored, Registry.bucket before hash = .ok stored ∨ Registry.bucket now hash = .ok stored →
        stored.device ∈ signers

namespace Traced

theorem refl (sound : Sound before) (stored : storedCoordinates before ⊆ occur) :
    Traced signers occur before before where
  sound
  stored
  entry _ := Or.inl rfl
  kept {_ found} present := ⟨found, present, Or.inl ⟨rfl, rfl⟩⟩
  bucket _ := Or.inl rfl

/-- A signed step goes on where the signatures reach. -/
theorem step (traced : Traced signers occur before now) {mark : Mark}
    (noCollision : occur.InjOn Coordinates.hash) (step : Step now mark next)
    (allowed : signed signers occur mark) : Traced signers occur before next where
  sound := traced.sound.step step
  stored := by
    intro coordinates stands
    rcases step.stored_or_named stands with earlier | rfl
    · exact traced.stored earlier
    · exact allowed.2
  entry address := by
    rcases traced.entry address with same | answered
    · rcases step.entry_touched address with untouched | self | ⟨found, present, owner⟩
      · exact Or.inl (untouched.trans same)
      · exact Or.inr (Or.inl (self ▸ authority_of_signed allowed))
      · rw [device_congr same] at present
        exact Or.inr (Or.inr ⟨found, present, owner ▸ authority_of_signed allowed⟩)
    · exact Or.inr answered
  kept {address found} present := by
    rcases traced.kept present with ⟨middle, presentNow, same | answered⟩
    · rcases step.device_edited presentNow with ⟨last, presentNext, stillSame | owner⟩
      · exact ⟨last, presentNext, Or.inl ⟨stillSame.1.trans same.1, stillSame.2.trans same.2⟩⟩
      · refine ⟨last, presentNext, Or.inr ?_⟩
        rw [← same.1, ← owner]
        exact authority_of_signed allowed
    · rcases step.device_edited presentNow with ⟨last, presentNext, -⟩
      exact ⟨last, presentNext, Or.inr answered⟩
  bucket hash := by
    have named : ∀ coordinates, mark = .reading coordinates → coordinates ∈ occur := by
      rintro coordinates rfl
      exact allowed.2
    rcases step.bucket_touched traced.sound noCollision traced.stored named hash with
      untouched | ⟨coordinates, rfl, own, written⟩
    · rcases traced.bucket hash with same | answered
      · exact Or.inl (untouched.trans same)
      · right
        rw [bucket_congr untouched]
        exact answered
    · -- What stands at this hash, before or after, has the coordinates of a signed reading.
      right
      have device : coordinates.device ∈ signers := allowed.1
      rintro stored (first | last)
      · rcases traced.bucket hash with same | answered
        · rw [← bucket_congr same] at first
          have home : stored.device = coordinates.device :=
            congrArg Coordinates.device (own stored first)
          exact home ▸ device
        · exact answered stored (Or.inl first)
      · have home : stored.device = coordinates.device :=
          congrArg Coordinates.device (written stored last)
        exact home ▸ device

theorem authorized (traced : Traced signers occur before now) : Authorized signers before now where
  registered {address found} unknown present := by
    rcases traced.entry address with same | self | ⟨home, presentBefore, -⟩
    · rw [device_congr same] at present
      exact absurd present (unknown found)
    · exact self
    · exact absurd presentBefore (unknown home)
  edited {address found} present := by
    rcases traced.kept present with ⟨last, presentNow, same | answered⟩
    · refine ⟨last, presentNow, ?_⟩
      rintro (otherOwner | otherChannels)
      · exact absurd same.1 otherOwner
      · exact absurd same.2 otherChannels
    · exact ⟨last, presentNow, fun _ => answered⟩
  collected {hash stored} stands changed := by
    rcases traced.bucket hash with same | answered
    · exact absurd same changed
    · exact answered stored stands
  untouched {address} unsigned ownerUnsigned := by
    constructor
    · rcases traced.entry address with same | self | ⟨found, present, owner⟩
      · exact same
      · exact absurd self unsigned
      · exact absurd owner (ownerUnsigned found present)
    · intro hash stored stands home
      rcases traced.bucket hash with same | answered
      · exact same
      · exact absurd (home ▸ answered stored stands) unsigned

end Traced

/-- What a message may do, its signers have signed. -/
theorem signed_of_permits {store : Store} {message : Message} {mark : Mark}
    (signs : ∀ address ∈ message.signers, address ∈ signers)
    (named : namedCoordinates store message ⊆ occur) (permitted : permits store message mark) :
    signed signers occur mark := by
  cases mark with
  | entry address authority => exact signs authority permitted.2
  | reading coordinates =>
    refine ⟨?_, named permitted⟩
    cases message with
    | setOwner message => exact absurd permitted (Set.notMem_empty _)
    | updateChannels message => exact absurd permitted (Set.notMem_empty _)
    | addReadings message =>
      rcases permitted with ⟨found, channel, new, member, present, listed, rfl⟩
      exact signs message.device List.mem_cons_self

/-- Messages one after the other take signed steps. -/
theorem Traced.handleAll {messages : List Message} (traced : Traced signers occur before now)
    (noCollision : occur.InjOn Coordinates.hash)
    (signs : ∀ message ∈ messages, ∀ address ∈ message.signers, address ∈ signers)
    (occurs : occurring now messages ⊆ occur) :
    Traced signers occur before ((Ledger.handleAll messages).on now).2 := by
  induction messages generalizing now with
  | nil => exact traced
  | cons first rest hypothesis =>
    have named : namedCoordinates now first ⊆ occur :=
      fun coordinates member => occurs (Or.inl (Or.inr member))
    have steps : Steps (signed signers occur) now ((handle first).on now).2 :=
      (steps_of_handle now first).mono fun mark =>
        signed_of_permits (signs first List.mem_cons_self) named
    have tracedMiddle : Traced signers occur before ((handle first).on now).2 := by
      apply steps.preserves (Traced signers occur before) _ traced
      intro _ mark _ allowed step tracedHere
      exact tracedHere.step noCollision step allowed
    rw [Ledger.after_handleAll_cons]
    rcases outcome : (handle first).on now with ⟨_ | event, middle⟩
    · simpa [outcome] using tracedMiddle
    · rw [outcome] at tracedMiddle
      apply hypothesis tracedMiddle
      · intro message member
        exact signs message (List.mem_cons_of_mem _ member)
      · intro coordinates member
        apply occurs
        right
        rw [outcome]
        exact member

end DeviceRegistry.Registry

namespace DeviceRegistry.Ledger

open Registry

/-- The signers of a transaction answer for all that it changes. -/
theorem authorized_of_deliver (now : Int64) (commands : List Command) (transaction : Transaction)
    (events : List Event)
    (succeeds : ((run now commands).deliver transaction).1 = .ok events)
    (noCollision : (occurring (run now commands).store transaction.messages).InjOn
      Coordinates.hash) :
    Authorized transaction.signers (run now commands).store
      ((run now commands).deliver transaction).2.store := by
  rcases deliver_eq_ok succeeds with ⟨bank, store, -, handled, after⟩
  have start : Traced transaction.signers
      (occurring (run now commands).store transaction.messages) (run now commands).store
      (run now commands).store :=
    .refl (sound_run now commands) (storedCoordinates_subset_occurring _ _)
  have signs : ∀ message ∈ transaction.messages, ∀ address ∈ message.signers,
      address ∈ transaction.signers := by
    intro message member address signer
    exact Transaction.mem_signers.mpr ⟨message, member, signer⟩
  have traced := start.handleAll noCollision signs subset_rfl
  rw [handled] at traced
  rw [after]
  exact traced.authorized

theorem authorized_of_changingHands :
    changingHands.signers = [⟨[2]⟩, ⟨[3]⟩, ⟨[1]⟩] ∧
      ((run 0 withFailure).deliver comingTooLate).1 =
        .error (.message (.unauthorized .notOwner)) ∧
      ((run 0 withFailure).deliver changingHands).1 =
        .ok [.ownerChanged ⟨[1]⟩ ⟨[2]⟩ ⟨[3]⟩, .channelsUpdated ⟨[1]⟩ 1 0 0,
          .readingsAdded ⟨[1]⟩ 2 1 0] ∧
      Authorized changingHands.signers (run 0 withFailure).store
        ((run 0 withFailure).deliver changingHands).2.store := by
  have succeeds : ((run 0 withFailure).deliver changingHands).1 =
      .ok [.ownerChanged ⟨[1]⟩ ⟨[2]⟩ ⟨[3]⟩, .channelsUpdated ⟨[1]⟩ 1 0 0,
        .readingsAdded ⟨[1]⟩ 2 1 0] := by decide +kernel
  refine ⟨by decide, by decide +kernel, succeeds, ?_⟩
  apply authorized_of_deliver 0 withFailure changingHands _ succeeds
  apply injOn_of_listed (coordinatesListFrom (new 0) withFailure ++
    occurringList (run 0 withFailure).store changingHands.messages)
  · intro coordinates occurs
    rw [List.mem_append]
    rcases stored_or_mem_occurringList occurs with stands | listed
    · have stored := (logged_run 0 withFailure subset_rfl).stored
      exact Or.inl (mem_coordinatesListFrom_new (stored stands))
    · exact Or.inr listed
  · decide +kernel

end DeviceRegistry.Ledger
