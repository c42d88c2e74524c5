import Mathlib
import DeviceRegistry.Node.GenesisFile
import DeviceRegistry.Proofs.Json.Forms
import DeviceRegistry.Proofs.Number.Finite
import DeviceRegistry.Proofs.Registry.Import
import DeviceRegistry.Proofs.Registry.Refinement
import DeviceRegistry.Proofs.Registry.RoundTrip
/-!
# Saved genesis files

A file that was saved is JSON, and its devices, addresses, texts and instants are loaded as
they were. The value of a reading is loaded as what its numeral is read as. A value that is
not finite has no numeral: it is saved as `null`, and the whole file is then refused.
-/

namespace DeviceRegistry

open Json (Fault Form Lossless toJson)

/-! ## What is loaded instead of what was saved -/

/-- The reading that is loaded after a reading was saved. -/
def Reading.reread? (reading : Reading) : Option Reading :=
  reading.value.reread?.map fun value => { reading with value }

/-- The bucket that is loaded after a bucket was saved. -/
def Bucket.reread? (bucket : Bucket) : Option Bucket :=
  (bucket.readings.mapM Reading.reread?).map fun readings => { bucket with readings }

/-- The genesis that is loaded after a genesis was saved. -/
def Genesis.reread? (genesis : Genesis) : Option Genesis :=
  (genesis.buckets.mapM Bucket.reread?).map fun buckets => { genesis with buckets }

/-- The outcome of reading a document, which is malformed where it has no value. -/
def orMalformed {α : Type} (outcome : Option α) : Except Fault α :=
  outcome.elim (.error .malformed) .ok

theorem ofOutline_single (number : Single) :
    Form.ofOutline (toJson number).outline = orMalformed number.reread? := by
  simp only [toJson, Single.reread?]
  rcases number.toNumeral? with _ | numeral
  · rfl
  · simp only [Json.outline, Form.ofOutline, Option.bind_some]
    rcases Single.ofNumeral? numeral with _ | again <;> rfl

theorem mapM_orMalformed {α : Type} [Form α] {reread? : α → Option α}
    (each : ∀ value, Form.ofOutline (toJson value).outline = orMalformed (reread? value))
    (items : List α) :
    Form.ofOutline (toJson items).outline = orMalformed (items.mapM reread?) := by
  rw [Json.ofOutline_list]
  induction items with
  | nil => rfl
  | cons first rest hypothesis =>
    rw [List.map_cons, Json.outlines, List.mapM_cons, each, hypothesis, List.mapM_cons]
    rcases reread? first with _ | again
    · rfl
    · rcases rest.mapM reread? with _ | others <;> rfl

theorem ofOutline_reading (reading : Reading) :
    Form.ofOutline (toJson reading).outline = orMalformed reading.reread? := by
  apply (Json.ofOutline_ofFields (by decide) reading).trans
  have timestamp := Lossless.survives reading.timestamp
  have note := Lossless.survives reading.note
  rw [Json.Survives] at timestamp note
  simp only [Layout.toFields, Json.Fields.required, Json.Fields.optional, Json.Fields.reread,
    timestamp, ofOutline_single, note, Reading.reread?]
  rcases reading.value.reread? with _ | value <;> rfl

theorem ofOutline_bucket (bucket : Bucket) :
    Form.ofOutline (toJson bucket).outline = orMalformed bucket.reread? := by
  apply (Json.ofOutline_ofFields (by decide) bucket).trans
  have device := Lossless.survives bucket.device
  have channel := Lossless.survives bucket.channel
  have instant := Lossless.survives bucket.instant
  rw [Json.Survives] at device channel instant
  simp only [Layout.toFields, Json.Fields.required, Json.Fields.reread, device, channel, instant,
    mapM_orMalformed ofOutline_reading, Bucket.reread?]
  rcases bucket.readings.mapM Reading.reread? with _ | readings <;> rfl

theorem ofOutline_genesis (genesis : Genesis) :
    Form.ofOutline (toJson genesis).outline = orMalformed genesis.reread? := by
  apply (Json.ofOutline_ofFields (by decide) genesis).trans
  have devices := Lossless.survives genesis.devices
  rw [Json.Survives] at devices
  simp only [Layout.toFields, Json.Fields.optional, Json.Fields.reread, devices,
    mapM_orMalformed ofOutline_bucket, Genesis.reread?]
  rcases genesis.buckets.mapM Bucket.reread? with _ | buckets <;> rfl

/-! ## Lists of values that may be lost -/

section Lists

variable {α : Type} {reread? : α → Option α} {items results : List α}

theorem mapM_eq_some :
    items.mapM reread? = some results ↔ items.map reread? = results.map some := by
  induction items generalizing results with
  | nil => cases results <;> simp
  | cons first rest hypothesis =>
    rw [List.mapM_cons]
    cases results with
    | nil => simp [Option.bind_eq_some_iff]
    | cons result results =>
      rw [List.map_cons, List.map_cons, List.cons.injEq, ← hypothesis]
      rcases reread? first with _ | again
      · simp
      · rcases rest.mapM reread? with _ | others <;> simp

theorem mapM_eq_some_self :
    items.mapM reread? = some items ↔ ∀ item ∈ items, reread? item = some item := by
  rw [mapM_eq_some, List.map_inj_left]

theorem mapM_eq_none : items.mapM reread? = none ↔ ∃ item ∈ items, reread? item = none := by
  induction items with
  | nil => simp
  | cons first rest hypothesis =>
    rw [List.mapM_cons, List.exists_mem_cons_iff, ← hypothesis]
    rcases reread? first with _ | again
    · simp
    · rcases rest.mapM reread? with _ | others <;> simp

end Lists

theorem Reading.reread?_eq_some_self {reading : Reading} :
    reading.reread? = some reading ↔ reading.value.reread? = some reading.value := by
  rcases reading with ⟨timestamp, value, note⟩
  simp [reread?]

theorem Bucket.reread?_eq_some_self {bucket : Bucket} :
    bucket.reread? = some bucket ↔
      ∀ reading ∈ bucket.readings, reading.value.reread? = some reading.value := by
  rcases bucket with ⟨device, channel, instant, readings⟩
  simp [reread?, mapM_eq_some_self, Reading.reread?_eq_some_self]

/-- Apart from its readings a bucket is loaded as it was, and with as many of them. -/
theorem Bucket.of_reread? {bucket again : Bucket} (loaded : bucket.reread? = some again) :
    again.device = bucket.device ∧ again.channel = bucket.channel ∧
      again.readings.length = bucket.readings.length := by
  rcases Option.map_eq_some_iff.mp loaded with ⟨readings, items, rfl⟩
  have lengths := congrArg List.length (mapM_eq_some.mp items)
  exact ⟨rfl, rfl, by simpa using lengths.symm⟩

namespace Genesis

variable {genesis : Genesis}

/-- A genesis is lost with the first value that is not finite. -/
theorem reread?_eq_none :
    genesis.reread? = none ↔
      ∃ bucket ∈ genesis.buckets, ∃ reading ∈ bucket.readings, ¬reading.value.IsFinite := by
  simp only [reread?, Bucket.reread?, Reading.reread?, Option.map_eq_none_iff, mapM_eq_none,
    Single.reread?_eq_none]

theorem reread?_eq_some_self :
    genesis.reread? = some genesis ↔
      ∀ bucket ∈ genesis.buckets, ∀ reading ∈ bucket.readings,
        reading.value.reread? = some reading.value := by
  rcases genesis with ⟨devices, buckets⟩
  simp [reread?, mapM_eq_some_self, Bucket.reread?_eq_some_self]

/-- Nothing that is checked of a genesis depends on the values of its readings. -/
theorem check_of_reread? {again : Genesis} (checked : genesis.check = .ok ())
    (loaded : genesis.reread? = some again) : again.check = .ok () := by
  rcases Option.map_eq_some_iff.mp loaded with ⟨buckets, items, rfl⟩
  rcases check_eq_ok.mp checked with ⟨devicesChecked, bucketsChecked⟩
  apply check_eq_ok.mpr
  refine ⟨devicesChecked, ?_⟩
  intro again member
  have listed : some again ∈ genesis.buckets.map Bucket.reread? := by
    rw [mapM_eq_some.mp items]
    exact List.mem_map_of_mem member
  rcases List.mem_map.mp listed with ⟨bucket, memberBefore, loadedBucket⟩
  rcases Bucket.of_reread? loadedBucket with ⟨device, channel, length⟩
  rcases bucketsChecked bucket memberBefore with ⟨bucketChecked, home, filled⟩
  rw [← List.length_pos_iff] at filled ⊢
  simp only [Registry.checkBucket, device, channel, length] at *
  exact ⟨bucketChecked, home, filled⟩

end Genesis

theorem Registry.Reached.handleEach {store : Store} (reached : Reached store)
    (messages : List Message) : Reached (handleEach store messages).2 :=
  handleEach_preserves Reached reached fun message _ _ here => here.asked (.handle message)

namespace Node.GenesisFile

/-- A saved genesis is loaded with the values that are read instead, or refused. -/
theorem decode_encode {genesis : Genesis} (checked : genesis.check = .ok ()) :
    decode (encode genesis) = genesis.reread?.elim (.error (.parse .malformed)) .ok := by
  rw [decode, encode, Json.read_indented, ofOutline_genesis]
  cases loaded : genesis.reread? with
  | none => rfl
  | some again =>
    change (again.check.mapError GenesisFileError.invalid >>= fun _ => pure again) = _
    rw [Genesis.check_of_reread? checked loaded]
    rfl

/-- Whatever messages have built up can be saved, and loaded unless a value is not finite. -/
theorem decode_encode_exportGenesis (messages : List Message) :
    ∃ genesis, Registry.exportGenesis (Registry.handleEach .empty messages).2 = .ok genesis ∧
      decode (encode genesis) = genesis.reread?.elim (.error (.parse .malformed)) .ok ∧
      (decode (encode genesis) = .error (.parse .malformed) ↔
        ∃ bucket ∈ genesis.buckets, ∃ reading ∈ bucket.readings, ¬reading.value.IsFinite) ∧
      (decode (encode genesis) = .ok genesis ↔
        ∀ bucket ∈ genesis.buckets, ∀ reading ∈ bucket.readings,
          reading.value.reread? = some reading.value) := by
  have covered := (Registry.Reached.empty.handleEach messages).covered
  rcases Registry.exists_exportGenesis covered.consists with ⟨genesis, exported, sorts⟩
  have decoded := decode_encode (sorts.check covered)
  refine ⟨genesis, exported, decoded, ?_, ?_⟩
  · rw [decoded, ← Genesis.reread?_eq_none]
    cases genesis.reread? <;> simp
  · rw [decoded, ← Genesis.reread?_eq_some_self]
    cases genesis.reread? <;> simp

/-- A reading of `1e39`, which is beyond the numbers of 32 bits. -/
def overflowing : Json :=
  .object [("type", .text "datanode/AddRecords"), ("value", .object [("datanode", .text "01"),
    ("records", .array [.object [("channel", .text "a"), ("timestamp", .number (.ofNat 86400)),
      ("value", .number { Numeral.ofNat 1 with exponent := some ⟨false, Digits.ofNat 39⟩ })]])])]

/-- A device with one channel receives a reading that is beyond the numbers of 32 bits. -/
def overflowingTexts : List String :=
  [(toJson (Message.setOwner ⟨⟨[1]⟩, ⟨[1]⟩, ⟨[2]⟩, ""⟩)).compact,
    (toJson (Message.updateChannels ⟨⟨[2]⟩, ⟨[1]⟩, [.assign "a" "temperature"]⟩)).compact,
    overflowing.compact]

/-- What the texts are read as: the reading has become infinite. -/
def overflowed : List Message :=
  [.setOwner ⟨⟨[1]⟩, ⟨[1]⟩, ⟨[2]⟩, ""⟩,
    .updateChannels ⟨⟨[2]⟩, ⟨[1]⟩, [.assign "a" "temperature"]⟩,
    .addReadings ⟨⟨[1]⟩, [.new "a" 86400 ⟨0x7f800000⟩]⟩]

/-- The registry after these messages. -/
def overflowedGenesis : Genesis where
  devices := [⟨⟨[1]⟩, ⟨[2]⟩, "01", [⟨"a", "temperature"⟩],
    [.ofDay ⟨[1]⟩ ⟨"a", "temperature"⟩ 86400]⟩]
  buckets := [⟨⟨[1]⟩, ⟨"a", "temperature"⟩, 86400, [.new 86400 ⟨0x7f800000⟩]⟩]

/-- The registry after messages from documents can be saved and yet not be loaded. -/
theorem not_all_saved_loaded :
    ¬∀ (texts : List String) (messages : List Message) (genesis : Genesis),
      texts.mapM (fun text => Json.read (Text.Utf8.encode text)) = .ok messages →
      Registry.exportGenesis (Registry.handleEach .empty messages).2 = .ok genesis →
      decode (encode genesis) = .ok genesis := by
  intro loaded
  have read : overflowingTexts.mapM (fun text => Json.read (Text.Utf8.encode text)) =
      .ok overflowed := by decide +kernel
  have exported : Registry.exportGenesis (Registry.handleEach .empty overflowed).2 =
      .ok overflowedGenesis := by decide +kernel
  have again := loaded overflowingTexts overflowed overflowedGenesis read exported
  have lost : overflowedGenesis.reread? = none := by decide +kernel
  rw [decode_encode (by decide), lost] at again
  cases again

end Node.GenesisFile

end DeviceRegistry
