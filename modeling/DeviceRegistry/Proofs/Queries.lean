import Mathlib
import DeviceRegistry.Query
import DeviceRegistry.Proofs.Registry.Filing
/-!
# What a query is answered

One relation tells the answer to every path, with a rule for each outcome. The premises of
a rule say that what is checked before has passed, so they give the order of the checks: the
kind of the query, the number of its texts, its address, its instant, the device, the channel.

Devices and buckets are those that lie in the store in their binary form. A stored entry
that could not be read would be another outcome. There is no rule for it, since a registry
comes to no such store.
-/

namespace DeviceRegistry.Query

open Binary (Codec)
open Json (toJson)
open Registry (Covered Reached entangled importGenesis)

/-- A reading within an answer. -/
def answered (reading : Reading) : Json :=
  .object [("ts", toJson reading.timestamp), ("value", toJson reading.value),
    ("misc", toJson reading.note)]

/-- The text that answers a path, or the first reason why there is none. -/
inductive Answers (store : Store) : List String → Except Error String → Prop
  | unknownRequest {path : List String} (notDevice : path.head? ≠ some "datanode")
      (notReadings : path.head? ≠ some "records") :
      Answers store path (.error .unknownRequest)
  | notDevicePath {rest : List String} (miscounted : rest.length ≠ 1) :
      Answers store ("datanode" :: rest) (.error (.invalidRequest .notDevicePath))
  | deviceMisnamed {text : String} {cause : Address.Fault}
      (misnamed : Address.ofText text = .error cause) :
      Answers store ["datanode", text] (.error (.invalidAddress cause))
  | deviceMissing {text : String} {address : Address}
      (named : Address.ofText text = .ok address)
      (missing : store.get? (StoreKey.device address).bytes = none) :
      Answers store ["datanode", text] (.error (.registry (.deviceNotFound address)))
  | device {text : String} {address : Address} {found : Device}
      (named : Address.ofText text = .ok address)
      (stands : store.get? (StoreKey.device address).bytes = some (Codec.encode found)) :
      Answers store ["datanode", text] (.ok (toJson found).indented)
  | notReadingsPath {rest : List String} (miscounted : rest.length ≠ 3) :
      Answers store ("records" :: rest) (.error (.invalidRequest .notReadingsPath))
  | readingsMisnamed {text channelId date : String} {cause : Address.Fault}
      (misnamed : Address.ofText text = .error cause) :
      Answers store ["records", text, channelId, date] (.error (.invalidAddress cause))
  | invalidInstant {text channelId date : String} {address : Address} {cause : Instant.Fault}
      (named : Address.ofText text = .ok address) (undated : Instant.ofText date = .error cause) :
      Answers store ["records", text, channelId, date]
        (.error (.invalidRequest (.invalidInstant date cause)))
  | readingsMissing {text channelId date : String} {address : Address} {instant : Int64}
      (named : Address.ofText text = .ok address) (dated : Instant.ofText date = .ok instant)
      (missing : store.get? (StoreKey.device address).bytes = none) :
      Answers store ["records", text, channelId, date]
        (.error (.registry (.deviceNotFound address)))
  | channelMissing {text channelId date : String} {address : Address} {instant : Int64}
      {found : Device} (named : Address.ofText text = .ok address)
      (dated : Instant.ofText date = .ok instant)
      (stands : store.get? (StoreKey.device address).bytes = some (Codec.encode found))
      (unlisted : found.channel? channelId = none) :
      Answers store ["records", text, channelId, date]
        (.error (.registry (.channelNotFound address channelId)))
  | noReadings {text channelId date : String} {address : Address} {instant : Int64}
      {found : Device} {channel : Channel} (named : Address.ofText text = .ok address)
      (dated : Instant.ofText date = .ok instant)
      (stands : store.get? (StoreKey.device address).bytes = some (Codec.encode found))
      (listed : found.channel? channelId = some channel)
      (unopened : store.get? (StoreKey.bucket (.ofDay address channel instant)).bytes = none) :
      Answers store ["records", text, channelId, date] (.ok (Json.array []).indented)
  | readings {text channelId date : String} {address : Address} {instant : Int64}
      {found : Device} {channel : Channel} {stored : Bucket}
      (named : Address.ofText text = .ok address) (dated : Instant.ofText date = .ok instant)
      (stands : store.get? (StoreKey.device address).bytes = some (Codec.encode found))
      (listed : found.channel? channelId = some channel)
      (opened : store.get? (StoreKey.bucket (.ofDay address channel instant)).bytes =
        some (Codec.encode stored)) :
      Answers store ["records", text, channelId, date]
        (.ok (Json.array (stored.readings.map answered)).indented)

variable {store : Store} {path : List String} {outcome : Except Error String}
  {text other channelId date otherDate : String} {address : Address} {instant otherInstant : Int64}
  {channel : Channel}

/-! ## The steps of an answer -/

theorem addressOf_of_ok (named : Address.ofText text = .ok address) :
    addressOf text = .ok address := by
  simp [addressOf, named, Except.mapError]

theorem addressOf_of_error {cause : Address.Fault} (misnamed : Address.ofText text = .error cause) :
    addressOf text = .error (.invalidAddress cause) := by
  simp [addressOf, misnamed, Except.mapError]

theorem instantOf_of_ok (dated : Instant.ofText date = .ok instant) :
    instantOf date = .ok instant := by
  simp [instantOf, dated, Except.mapError]

theorem instantOf_of_error {cause : Instant.Fault} (undated : Instant.ofText date = .error cause) :
    instantOf date = .error (.invalidRequest (.invalidInstant date cause)) := by
  simp [instantOf, undated, Except.mapError]

theorem toJson_ofReading (readings : List Reading) :
    toJson (readings.map AnsweredReading.ofReading) = .array (readings.map answered) := by
  apply congrArg Json.array
  rw [List.map_map]
  rfl

theorem answer_device (named : Address.ofText text = .ok address) :
    answer store ["datanode", text] =
      ((Registry.device store address).mapError .registry).map toJson := by
  simp only [answer, answerDevice, addressOf_of_ok named, bind, Except.bind]
  cases Registry.device store address <;> rfl

theorem answer_readings (named : Address.ofText text = .ok address)
    (dated : Instant.ofText date = .ok instant) :
    answer store ["records", text, channelId, date] =
      (readingsOrNone store address channelId instant).map fun readings =>
        .array (readings.map answered) := by
  simp only [answer, answerReadings, addressOf_of_ok named, instantOf_of_ok dated, bind,
    Except.bind, toJson_ofReading]
  cases readingsOrNone store address channelId instant <;> rfl

theorem readingsOrNone_of_error {error : RegistryError}
    (missing : Registry.channel store address channelId = .error error)
    (other : ∀ hash, error ≠ .bucketNotFound hash) :
    readingsOrNone store address channelId instant = .error (.registry error) := by
  rw [readingsOrNone, Registry.readings_of_error missing]
  cases error with
  | bucketNotFound hash => exact absurd rfl (other hash)
  | _ => rfl

theorem readingsOrNone_of_unopened
    (listed : Registry.channel store address channelId = .ok channel)
    (unopened : store.get? (StoreKey.bucket (.ofDay address channel instant)).bytes = none) :
    readingsOrNone store address channelId instant = .ok [] := by
  have missing := Registry.bucket_of_get?_eq_none unopened
  rw [readingsOrNone, Registry.readings_of_channel listed, missing]
  rfl

theorem readingsOrNone_of_opened {stored : Bucket}
    (listed : Registry.channel store address channelId = .ok channel)
    (opened : store.get? (StoreKey.bucket (.ofDay address channel instant)).bytes =
      some (Codec.encode stored)) :
    readingsOrNone store address channelId instant = .ok stored.readings := by
  have stands := Registry.bucket_of_get?_eq_some opened
  rw [readingsOrNone, Registry.readings_of_channel listed, stands]
  rfl

/-! ## Every path has an outcome, and the query is answered with it -/

theorem exists_answers_device (covered : Covered store) (rest : List String) :
    ∃ outcome, Answers store ("datanode" :: rest) outcome := by
  by_cases counted : rest.length = 1
  · rcases List.length_eq_one_iff.mp counted with ⟨text, rfl⟩
    cases named : Address.ofText text with
    | error cause => exact ⟨_, .deviceMisnamed named⟩
    | ok address =>
      rcases covered.consists.device_cases address with ⟨found, -, stands, -⟩ | ⟨-, missing⟩
      · exact ⟨_, .device named stands⟩
      · exact ⟨_, .deviceMissing named missing⟩
  · exact ⟨_, .notDevicePath counted⟩

theorem exists_answers_readings (covered : Covered store) (rest : List String) :
    ∃ outcome, Answers store ("records" :: rest) outcome := by
  by_cases counted : rest.length = 3
  · rcases List.length_eq_three.mp counted with ⟨text, channelId, date, rfl⟩
    cases named : Address.ofText text with
    | error cause => exact ⟨_, .readingsMisnamed named⟩
    | ok address =>
      cases dated : Instant.ofText date with
      | error cause => exact ⟨_, .invalidInstant named dated⟩
      | ok instant =>
        rcases covered.consists.device_cases address with ⟨found, -, stands, -⟩ | ⟨-, missing⟩
        · cases listed : found.channel? channelId with
          | none => exact ⟨_, .channelMissing named dated stands listed⟩
          | some channel =>
            rcases covered.consists.bucket_cases (.ofDay address channel instant) with
              ⟨stored, -, opened, -⟩ | ⟨-, unopened⟩
            · exact ⟨_, .readings named dated stands listed opened⟩
            · exact ⟨_, .noReadings named dated stands listed unopened⟩
        · exact ⟨_, .readingsMissing named dated missing⟩
  · exact ⟨_, .notReadingsPath counted⟩

theorem exists_answers (covered : Covered store) (path : List String) :
    ∃ outcome, Answers store path outcome := by
  by_cases device : path.head? = some "datanode"
  · rcases List.head?_eq_some_iff.mp device with ⟨rest, rfl⟩
    exact exists_answers_device covered rest
  · by_cases readings : path.head? = some "records"
    · rcases List.head?_eq_some_iff.mp readings with ⟨rest, rfl⟩
      exact exists_answers_readings covered rest
    · exact ⟨_, .unknownRequest device readings⟩

theorem answer_of_answers (covered : Covered store) (answers : Answers store path outcome) :
    (answer store path).map Json.indented = outcome := by
  have consists := covered.consists
  cases answers with
  | unknownRequest notDevice notReadings =>
    unfold answer
    split
    · simp at notDevice
    · simp at notReadings
    · rfl
  | notDevicePath miscounted =>
    simp only [answer, answerDevice]
    split
    · simp at miscounted
    · rfl
  | deviceMisnamed misnamed =>
    simp only [answer, answerDevice, addressOf_of_error misnamed]
    rfl
  | deviceMissing named missing =>
    rw [answer_device named, Registry.device_of_get?_eq_none missing]
    rfl
  | device named stands =>
    rw [answer_device named, consists.device_iff.mpr stands]
    rfl
  | notReadingsPath miscounted =>
    simp only [answer, answerReadings]
    split
    · simp at miscounted
    · rfl
  | readingsMisnamed misnamed =>
    simp only [answer, answerReadings, addressOf_of_error misnamed]
    rfl
  | invalidInstant named undated =>
    simp only [answer, answerReadings, addressOf_of_ok named, instantOf_of_error undated]
    rfl
  | readingsMissing named dated missing =>
    have noChannel := Registry.channel_of_error (Registry.device_of_get?_eq_none missing)
    rw [answer_readings named dated, readingsOrNone_of_error (noChannel _) (by simp)]
    rfl
  | channelMissing named dated stands unlisted =>
    have noChannel :=
      Registry.channel_eq_channelNotFound (consists.device_iff.mpr stands) unlisted
    rw [answer_readings named dated, readingsOrNone_of_error noChannel (by simp)]
    rfl
  | noReadings named dated stands listed unopened =>
    have has := Registry.channel_eq_ok.mpr ⟨_, consists.device_iff.mpr stands, listed⟩
    rw [answer_readings named dated, readingsOrNone_of_unopened has unopened]
    rfl
  | readings named dated stands listed opened =>
    have has := Registry.channel_eq_ok.mpr ⟨_, consists.device_iff.mpr stands, listed⟩
    rw [answer_readings named dated, readingsOrNone_of_opened has opened]
    rfl

theorem answer_eq_iff (covered : Covered store) :
    (answer store path).map Json.indented = outcome ↔ Answers store path outcome := by
  constructor
  · rintro rfl
    rcases exists_answers covered path with ⟨outcome, answers⟩
    rw [answer_of_answers covered answers]
    exact answers
  · exact answer_of_answers covered

theorem failures_of_answers {cause : RegistryError}
    (answers : Answers store path (.error (.registry cause))) :
    (∃ address, cause = .deviceNotFound address) ∨
      ∃ address channelId, cause = .channelNotFound address channelId := by
  cases answers with
  | deviceMissing => exact Or.inl ⟨_, rfl⟩
  | readingsMissing => exact Or.inl ⟨_, rfl⟩
  | channelMissing => exact Or.inr ⟨_, _, rfl⟩

theorem readingsOrNone_of_same_day
    (sameDay : instant.toInt / secondsPerDay = otherInstant.toInt / secondsPerDay) :
    readingsOrNone store address channelId instant =
      readingsOrNone store address channelId otherInstant := by
  simp only [readingsOrNone, Registry.readings, BucketHash.ofDay, dayNumber_eq_iff.mpr sameDay]

/-! ## Main result -/

/-- Every path is answered by the rules, and alike for all spellings of what it asks for. -/
structure Exact (store : Store) : Prop where
  answers : ∀ path outcome,
    (answer store path).map Json.indented = outcome ↔ Answers store path outcome
  /-- Of what the registry refuses, only two kinds reach whoever asks. -/
  failures : ∀ path cause, answer store path = .error (.registry cause) →
    (∃ address, cause = .deviceNotFound address) ∨
      ∃ address channelId, cause = .channelNotFound address channelId
  device_spelling : ∀ text other address,
    Address.ofText text = .ok address → Address.ofText other = .ok address →
      answer store ["datanode", text] = answer store ["datanode", other]
  readings_spelling : ∀ text other channelId date otherDate address instant otherInstant,
    Address.ofText text = .ok address → Address.ofText other = .ok address →
      Instant.ofText date = .ok instant → Instant.ofText otherDate = .ok otherInstant →
        instant.toInt / secondsPerDay = otherInstant.toInt / secondsPerDay →
          answer store ["records", text, channelId, date] =
            answer store ["records", other, channelId, otherDate]

theorem exact_of_reached (reached : Reached store) : Exact store := by
  have covered := reached.covered
  constructor
  · intro path outcome
    exact answer_eq_iff covered
  · intro path cause failed
    apply failures_of_answers
    rw [← answer_eq_iff covered, failed]
    rfl
  · intro text other address named namedToo
    rw [answer_device named, answer_device namedToo]
  · intro text other channelId date otherDate address instant otherInstant named namedToo dated
      datedToo sameDay
    rw [answer_readings named dated, answer_readings namedToo datedToo,
      readingsOrNone_of_same_day sameDay]

/-- A device is asked for with blanks, a mark and a sign, and the reading of its day is told. -/
theorem exact_entangled :
    Reached ((importGenesis entangled).on .empty).2 ∧
      Exact ((importGenesis entangled).on .empty).2 ∧
        Answers ((importGenesis entangled).on .empty).2 ["records", " 0x01", "a", "+90000"]
          (.ok (Json.array [answered ⟨7, ⟨0⟩, ""⟩]).indented) := by
  have reached : Reached ((importGenesis entangled).on .empty).2 :=
    .imported (Covered.importGenesis (by decide)).1
  have told := exact_of_reached reached
  refine ⟨reached, told, ?_⟩
  apply (told.answers _ _).mp
  rw [told.readings_spelling " 0x01" "01" "a" "+90000" "86400" ⟨[1]⟩ 90000 86400 (by decide)
    (by decide) (by decide) (by decide) (by decide)]
  decide +kernel

end DeviceRegistry.Query
