import Mathlib
import DeviceRegistry.Fee.Script
/-!
# The calls of the delegated fee stage

The stage is looked at between arbitrary ports: a host, another fee stage and the rest of
the chain, each of which may fail and may change a state that they share. Every call of a
port is noted before it is passed on. So what the stage does is told by its outcome, by the
state it ends in and by the list of its calls.

`Settles` and `Resolves` say what these are to be, one rule for each way through the stage.
The ports answer in one way at each state, so exactly one rule applies.
-/

namespace DeviceRegistry.Fee

variable {σ τ α : Type}

/-! ## Ports that note their calls -/

/-- The state of some ports, and the calls that were made of them so far. -/
structure Noted (σ : Type) where
  state : σ
  calls : List Call

/-- The state after a further call. -/
def Noted.call (noted : Noted σ) (call : Call) (state : σ) : Noted σ :=
  ⟨state, noted.calls ++ [call]⟩

/-- Makes a call of a port and notes it. -/
def noting (call : Call) (port : StateM σ α) : StateM (Noted σ) α := fun noted =>
  ((port noted.state).1, noted.call call (port noted.state).2)

/-- A host whose calls are noted. -/
def Host.noted (host : Host (StateM σ)) : Host (StateM (Noted σ)) where
  device address := noting (.device address) (host.device address)
  account address := noting (.account address) (host.account address)
  moduleAddress name := noting (.moduleAddress name) (host.moduleAddress name)
  deduct payer fee := noting (.deduct payer fee) (host.deduct payer fee)

/-- The rest of a chain, where it is noted when it runs. -/
def notedNext (next : Next (StateM σ) τ) : Next (StateM (Noted σ)) τ :=
  fun transaction simulate => noting (.next simulate) (next transaction simulate)

/-- A fee stage that is noted when it runs; it may call what comes next as it likes. -/
def notedStage (stage : Stage (StateM (Noted σ)) τ) : Stage (StateM (Noted σ)) τ :=
  fun transaction simulate next noted =>
    stage transaction simulate next (noted.call (.fallback simulate) noted.state)

/-! ## What the stage is to do -/

/-- The look-ups of these signers fail one after the other, for whatever reason. -/
inductive PassedOver (host : Host (StateM σ)) : List Address → σ → σ → Prop
  | nil (state : σ) : PassedOver host [] state state
  | cons {signer : Address} {signers : List Address} {state next last : σ} {cause : RegistryError}
      (fails : host.device signer state = (.error cause, next))
      (others : PassedOver host signers next last) :
      PassedOver host (signer :: signers) state last

section Rules

variable [Payable τ] (host : Host (StateM σ)) (transaction : τ) (simulate : Bool)
  (next : Next (StateM σ) τ)

/-- How an owner settles a fee, after some calls: the outcome, and the calls and state then. -/
inductive Settles (owner : Address) (noted : Noted σ) : Except Error Unit × Noted σ → Prop
  | unknownPayer {state : σ} (missing : host.account owner noted.state = (none, state)) :
      Settles owner noted (.error (.unknownPayer owner), noted.call (.account owner) state)
  | free {payer : Account} {state last : σ} {outcome : Except Error Unit}
      (opened : host.account owner noted.state = (some payer, state))
      (zero : ∀ coin ∈ (Payable.fee transaction).coins, coin.amount = 0)
      (passed : next transaction simulate state = (outcome, last)) :
      Settles owner noted
        (outcome, (noted.call (.account owner) state).call (.next simulate) last)
  | charged {payer : Account} {state paid last : σ} {outcome : Except Error Unit}
      (opened : host.account owner noted.state = (some payer, state))
      (owing : ∃ coin ∈ (Payable.fee transaction).coins, coin.amount ≠ 0)
      (deducted : host.deduct payer (Payable.fee transaction) state = (.ok (), paid))
      (passed : next transaction simulate paid = (outcome, last)) :
      Settles owner noted
        (outcome, ((noted.call (.account owner) state).call
          (.deduct payer (Payable.fee transaction)) paid).call (.next simulate) last)
  | refused {payer : Account} {state last : σ} {cause : BankError}
      (opened : host.account owner noted.state = (some payer, state))
      (owing : ∃ coin ∈ (Payable.fee transaction).coins, coin.amount ≠ 0)
      (refusal : host.deduct payer (Payable.fee transaction) state = (.error cause, last)) :
      Settles owner noted
        (.error (.bank cause), (noted.call (.account owner) state).call
          (.deduct payer (Payable.fee transaction)) last)

/-- What the stage does from a state on, where nothing was called before. -/
inductive Resolves (fallback : Stage (StateM (Noted σ)) τ) (start : σ) :
    Except Error Unit × Noted σ → Prop
  | noCollector {state : σ} (unset : host.moduleAddress collectorName start = (none, state)) :
      Resolves fallback start
        (.error (.collectorNotSet collectorName), ⟨state, [.moduleAddress collectorName]⟩)
  /-- The other stage gets the same transaction and all that comes next, and decides alone. -/
  | noDevice {collector : Address} {state last : σ} {result : Except Error Unit × Noted σ}
      (set : host.moduleAddress collectorName start = (some collector, state))
      (passed : PassedOver host (Payable.signers transaction) state last)
      (handedOn : fallback transaction simulate (notedNext next)
        ⟨last, .moduleAddress collectorName :: (Payable.signers transaction).map .device ++
          [.fallback simulate]⟩ = result) :
      Resolves fallback start result
  | device {collector signer : Address} {passed others : List Address} {device : Device}
      {state before found : σ} {result : Except Error Unit × Noted σ}
      (set : host.moduleAddress collectorName start = (some collector, state))
      (split : Payable.signers transaction = passed ++ signer :: others)
      (passedOver : PassedOver host passed state before)
      (registered : host.device signer before = (.ok device, found))
      (settled : Settles host transaction simulate next device.owner
        ⟨found, .moduleAddress collectorName :: (passed ++ [signer]).map .device⟩ result) :
      Resolves fallback start result

end Rules

/-! ## It does so -/

theorem isZero_eq_true {fee : Coins} :
    fee.isZero = true ↔ ∀ coin ∈ fee.coins, coin.amount = 0 := by
  simp [Coins.isZero]

theorem isZero_eq_false {fee : Coins} :
    fee.isZero = false ↔ ∃ coin ∈ fee.coins, coin.amount ≠ 0 := by
  simp [Coins.isZero]

section Search

variable {host : Host (StateM σ)} {noted : Noted σ} {last : σ}

theorem signingDevice_of_passedOver {passed : List Address}
    (passedOver : PassedOver host passed noted.state last) (others : List Address) :
    host.noted.signingDevice (passed ++ others) noted =
      host.noted.signingDevice others ⟨last, noted.calls ++ passed.map .device⟩ := by
  induction passed generalizing noted with
  | nil =>
    cases passedOver
    simp
  | cons signer rest hypothesis =>
    cases passedOver with
    | @cons _ _ _ next _ _ fails passedRest =>
      have step := @hypothesis (noted.call (.device signer) next) passedRest
      simp only [List.cons_append, Host.signingDevice, Host.noted, noting, bind, StateT.bind,
        fails] at step ⊢
      simpa [Noted.call] using step

theorem signingDevice_of_none {signers : List Address}
    (passedOver : PassedOver host signers noted.state last) :
    host.noted.signingDevice signers noted =
      (none, ⟨last, noted.calls ++ signers.map .device⟩) := by
  have searched := signingDevice_of_passedOver passedOver []
  rw [List.append_nil] at searched
  exact searched

theorem signingDevice_of_first {passed : List Address} {signer : Address} {device : Device}
    {found : σ} (passedOver : PassedOver host passed noted.state last)
    (registered : host.device signer last = (.ok device, found)) (others : List Address) :
    host.noted.signingDevice (passed ++ signer :: others) noted =
      (some device, ⟨found, noted.calls ++ (passed ++ [signer]).map .device⟩) := by
  rw [signingDevice_of_passedOver passedOver]
  simp only [Host.signingDevice, Host.noted, noting, bind, StateT.bind, registered, Noted.call,
    List.append_assoc, List.map_append]
  rfl

theorem passedOver_or_registered (host : Host (StateM σ)) (signers : List Address) (state : σ) :
    (∃ last, PassedOver host signers state last) ∨
      ∃ passed signer others device before found, signers = passed ++ signer :: others ∧
        PassedOver host passed state before ∧
        host.device signer before = (.ok device, found) := by
  induction signers generalizing state with
  | nil => exact Or.inl ⟨state, .nil state⟩
  | cons first rest hypothesis =>
    rcases looked : host.device first state with ⟨cause | device, next⟩
    · rcases hypothesis next with ⟨last, passedOver⟩ | ⟨passed, signer, others, device, before,
        found, split, passedOver, registered⟩
      · exact Or.inl ⟨last, .cons looked passedOver⟩
      · right
        exact ⟨first :: passed, signer, others, device, before, found, by rw [split]; rfl,
          .cons looked passedOver, registered⟩
    · exact Or.inr ⟨[], first, rest, device, state, next, rfl, .nil state, looked⟩

end Search

section Outcome

variable [Payable τ] {host : Host (StateM σ)} {transaction : τ} {simulate : Bool}
  {next : Next (StateM σ) τ} {fallback : Stage (StateM (Noted σ)) τ}
  {result : Except Error Unit × Noted σ}

/-- What the stage does once it knows who owns the device. -/
def settle (host : Host (StateM σ)) (transaction : τ) (simulate : Bool) (next : Next (StateM σ) τ)
    (owner : Address) : StateM (Noted σ) (Except Error Unit) := do
  match ← host.noted.account owner with
  | none => return .error (.unknownPayer owner)
  | some payer => host.noted.charge payer transaction simulate (notedNext next)

theorem settle_of_settles {owner : Address} {noted : Noted σ}
    (settles : Settles host transaction simulate next owner noted result) :
    settle host transaction simulate next owner noted = result := by
  cases settles with
  | unknownPayer missing =>
    simp only [settle, Host.noted, noting, bind, StateT.bind, missing]
    rfl
  | free opened zero passed =>
    simp only [settle, Host.charge, Host.noted, notedNext, noting, bind, StateT.bind, opened,
      isZero_eq_true.mpr zero, if_true, Noted.call, passed]
  | charged opened owing deducted passed =>
    simp only [settle, Host.charge, Host.noted, notedNext, noting, bind, StateT.bind, opened,
      isZero_eq_false.mpr owing, Bool.false_eq_true, if_false, Noted.call, deducted, passed]
  | refused opened owing refusal =>
    simp only [settle, Host.charge, Host.noted, notedNext, noting, bind, StateT.bind, opened,
      isZero_eq_false.mpr owing, Bool.false_eq_true, if_false, Noted.call, refusal]
    rfl

theorem exists_settles (host : Host (StateM σ)) (transaction : τ) (simulate : Bool)
    (next : Next (StateM σ) τ) (owner : Address) (noted : Noted σ) :
    ∃ result, Settles host transaction simulate next owner noted result := by
  rcases opened : host.account owner noted.state with ⟨_ | payer, state⟩
  · exact ⟨_, .unknownPayer opened⟩
  · cases owing : (Payable.fee transaction).isZero with
    | true => exact ⟨_, .free opened (isZero_eq_true.mp owing) rfl⟩
    | false =>
      rcases deducted : host.deduct payer (Payable.fee transaction) state with ⟨cause | ⟨⟩, paid⟩
      · exact ⟨_, .refused opened (isZero_eq_false.mp owing) deducted⟩
      · exact ⟨_, .charged opened (isZero_eq_false.mp owing) deducted rfl⟩

theorem moduleAddress_noted {start state : σ} {answer : Option Address}
    (answered : host.moduleAddress collectorName start = (answer, state)) :
    host.noted.moduleAddress collectorName ⟨start, []⟩ =
      (answer, ⟨state, [.moduleAddress collectorName]⟩) := by
  simp [Host.noted, noting, answered, Noted.call]

theorem delegated_of_resolves {start : σ}
    (resolves : Resolves host transaction simulate next fallback start result) :
    delegated host.noted (notedStage fallback) transaction simulate (notedNext next)
      ⟨start, []⟩ = result := by
  cases resolves with
  | noCollector unset =>
    simp only [delegated, bind, StateT.bind, moduleAddress_noted unset]
    rfl
  | @noDevice collector state last _ set passed handedOn =>
    have searched := @signingDevice_of_none σ host ⟨state, [.moduleAddress collectorName]⟩
      last _ passed
    simp only [delegated, bind, StateT.bind, moduleAddress_noted set, searched]
    exact handedOn
  | @device collector signer passed others device state before found _ set split passedOver
      registered settled =>
    have searched := @signingDevice_of_first σ host ⟨state, [.moduleAddress collectorName]⟩
      before passed signer device found passedOver registered others
    simp only [delegated, bind, StateT.bind, moduleAddress_noted set, split, searched]
    exact settle_of_settles settled

theorem exists_resolves (host : Host (StateM σ)) (fallback : Stage (StateM (Noted σ)) τ)
    (transaction : τ) (simulate : Bool) (next : Next (StateM σ) τ) (start : σ) :
    ∃ result, Resolves host transaction simulate next fallback start result := by
  rcases set : host.moduleAddress collectorName start with ⟨_ | collector, state⟩
  · exact ⟨_, .noCollector set⟩
  · rcases passedOver_or_registered host (Payable.signers transaction) state with
      ⟨last, passed⟩ | ⟨passed, signer, others, device, before, found, split, passedOver,
        registered⟩
    · exact ⟨_, .noDevice set passed rfl⟩
    · rcases exists_settles host transaction simulate next device.owner
        ⟨found, .moduleAddress collectorName :: (passed ++ [signer]).map .device⟩ with
        ⟨result, settled⟩
      exact ⟨result, .device set split passedOver registered settled⟩

/-- Between any ports, the stage does what the rules say and nothing else. -/
theorem delegated_eq_iff_resolves {start : σ} :
    delegated host.noted (notedStage fallback) transaction simulate (notedNext next)
        ⟨start, []⟩ = result ↔
      Resolves host transaction simulate next fallback start result := by
  constructor
  · rintro rfl
    rcases exists_resolves host fallback transaction simulate next start with ⟨result, resolves⟩
    rwa [delegated_of_resolves resolves]
  · exact delegated_of_resolves

end Outcome

end DeviceRegistry.Fee
