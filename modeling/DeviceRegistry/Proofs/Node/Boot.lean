import Mathlib
import DeviceRegistry.Node.Boot
import DeviceRegistry.Proofs.Documents
import DeviceRegistry.Proofs.Node.Paths
import DeviceRegistry.Proofs.Registry.Reading
/-!
# The genesis after a boot

A boot writes one file at most, its export. So the genesis stays as it was unless the export
path leads to it. The settings are refused if both paths are taken for one, but a path that is
spelt otherwise passes: with a dot in front of one of them only, the genesis is overwritten.
-/

namespace DeviceRegistry.Node

/-- A host whose files are a value and that keeps no log. -/
def FileSystem.host : Host (StateM FileSystem) :=
  ⟨FileSystem.access, fun _ => pure ()⟩

@[simp]
theorem FileSystem.host_files : FileSystem.host.files = FileSystem.access := rfl

namespace Boot

variable {α β ε : Type} {store later : Store} {system after : FileSystem}

/-! ## Steps that end well -/

/-- A step ends with a value, and leaves a registry and files. -/
def Ends (step : Step (StateM FileSystem) α) (store : Store) (system : FileSystem) (value : α)
    (later : Store) (after : FileSystem) : Prop :=
  (step.run.run store).run system = ((.ok value, later), after)

/-- A step ends in one way only. -/
theorem ends_iff_of_run {step : Step (StateM FileSystem) α} {passed value : α} {between : Store}
    {files : FileSystem}
    (ran : (step.run.run store).run system = ((.ok passed, between), files)) :
    Ends step store system value later after ↔
      passed = value ∧ later = between ∧ after = files := by
  rw [Ends, ran]
  constructor
  · intro same
    cases same
    exact ⟨rfl, rfl, rfl⟩
  · rintro ⟨rfl, rfl, rfl⟩
    rfl

theorem ends_bind {first : Step (StateM FileSystem) α} {next : α → Step (StateM FileSystem) β}
    {value : β} :
    Ends (first >>= next) store system value later after ↔
      ∃ passed between files, Ends first store system passed between files ∧
        Ends (next passed) between files value later after := by
  simp only [Ends, ExceptT.run_bind, StateT.run_bind]
  rcases (first.run.run store).run system with ⟨⟨fault | passed, between⟩, files⟩
  · constructor
    · intro ends
      cases ends
    · rintro ⟨_, _, _, ends, _⟩
      cases ends
  · constructor
    · intro ends
      exact ⟨passed, between, files, rfl, ends⟩
    · rintro ⟨_, _, _, same, ends⟩
      cases same
      exact ends

theorem ends_pure {value passed : α} :
    Ends (pure passed) store system value later after ↔
      passed = value ∧ later = store ∧ after = system :=
  ends_iff_of_run rfl

theorem not_ends_throw {cause : BootError} {value : α} :
    ¬Ends (throw cause) store system value later after := by
  intro ends
  cases ends

theorem ends_get {value : Store} :
    Ends get store system value later after ↔ store = value ∧ later = store ∧ after = system :=
  ends_iff_of_run rfl

theorem ends_set {next : Store} {value : PUnit} :
    Ends (set next) store system value later after ↔ later = next ∧ after = system :=
  (ends_iff_of_run rfl).trans (and_iff_right rfl)

theorem ends_liftM {action : StateM FileSystem α} {value : α} :
    Ends (liftM action) store system value later after ↔
      action.run system = (value, after) ∧ later = store := by
  rw [Prod.ext_iff]
  constructor
  · intro ends
    cases ends
    exact ⟨⟨rfl, rfl⟩, rfl⟩
  · rintro ⟨⟨rfl, rfl⟩, rfl⟩
    rfl

theorem ends_log {event : LogEvent} {value : Unit} :
    Ends (log FileSystem.host event) store system value later after ↔
      later = store ∧ after = system :=
  (ends_iff_of_run rfl).trans (and_iff_right rfl)

/-- What follows an entry of the log begins where the entry was made. -/
theorem ends_log_bind {event : LogEvent} {next : Unit → Step (StateM FileSystem) α} {value : α} :
    Ends (log FileSystem.host event >>= next) store system value later after ↔
      Ends (next ()) store system value later after := by
  rw [ends_bind]
  constructor
  · rintro ⟨⟨⟩, _, _, logged, ends⟩
    rcases ends_log.mp logged with ⟨rfl, rfl⟩
    exact ends
  · intro ends
    exact ⟨(), store, system, ends_log.mpr ⟨rfl, rfl⟩, ends⟩

theorem ends_attempt {action : StateM FileSystem (Except ε α)} {wrap : ε → BootError}
    {value : α} :
    Ends (attempt action wrap) store system value later after ↔
      action.run system = (.ok value, after) ∧ later = store := by
  rw [attempt, ends_bind]
  constructor
  · rintro ⟨fault | passed, between, files, ran, ends⟩
    · exact absurd ends not_ends_throw
    · rcases ends_pure.mp ends with ⟨rfl, rfl, rfl⟩
      exact ends_liftM.mp ran
  · intro ran
    exact ⟨.ok value, later, after, ends_liftM.mpr ran, ends_pure.mpr ⟨rfl, rfl, rfl⟩⟩

theorem ends_onStore {operation : Operation α} {wrap : RegistryError → BootError} {value : α} :
    Ends (onStore operation wrap) store system value later after ↔
      operation.on store = (.ok value, later) ∧ after = system := by
  rw [onStore, ends_bind]
  constructor
  · rintro ⟨_, _, _, asked, ends⟩
    rcases ends_get.mp asked with ⟨rfl, rfl, rfl⟩
    rcases outcome : operation.on _ with ⟨fault | passed, next⟩
    · rw [outcome] at ends
      rcases ends_bind.mp ends with ⟨_, _, _, _, thrown⟩
      exact absurd thrown not_ends_throw
    · rw [outcome] at ends
      rcases ends_bind.mp ends with ⟨_, _, _, stored, returned⟩
      rcases ends_set.mp stored with ⟨rfl, rfl⟩
      rcases ends_pure.mp returned with ⟨rfl, rfl, rfl⟩
      exact ⟨rfl, rfl⟩
  · rintro ⟨outcome, rfl⟩
    refine ⟨store, store, after, ends_get.mpr ⟨rfl, rfl, rfl⟩, ?_⟩
    rw [outcome]
    exact ends_bind.mpr
      ⟨(), later, after, ends_set.mpr ⟨rfl, rfl⟩, ends_pure.mpr ⟨rfl, rfl, rfl⟩⟩

/-! ## A boot that ends well -/

/-- The genesis must be a file, and no export may go to what is taken for the same path. -/
theorem check_eq_ok {config : Config} {value : Unit} :
    (config.check FileSystem.access).run system = (.ok value, after) ↔
      after = system ∧ ∀ path ∈ config.genesisPath, system.isFile path = true ∧
        config.exportPath.any (Path.same · path) = false := by
  rw [Prod.ext_iff, eq_comm (a := after)]
  rcases given : config.genesisPath with _ | path
  · have run : (config.check FileSystem.access).run system = (.ok (), system) := by
      simp only [Config.check, given]
      rfl
    simp [run]
  · have run : (config.check FileSystem.access).run system =
        (if system.isFile path then
          if config.exportPath.any (Path.same · path) then .error (.exportOverwritesGenesis path)
          else .ok ()
        else .error (.genesisNotFound path), system) := by
      simp only [Config.check, given, FileSystem.access]
      cases found : system.isFile path
      · simp [found]
        rfl
      · simp [found]
        cases config.exportPath.any (Path.same · path) <;> rfl
    simp only [run, Option.mem_def, Option.some.injEq, forall_eq']
    cases system.isFile path <;> cases config.exportPath.any (Path.same · path) <;> simp

/-- The registry holds the genesis that was read, if there is one. -/
def Imported (config : Config) (system : FileSystem) (store later : Store) : Prop :=
  (config.genesisPath = none → later = store) ∧
    ∀ path ∈ config.genesisPath, ∃ content genesis, system.read path = .ok content ∧
      GenesisFile.decode content = .ok genesis ∧
      (Registry.importGenesis genesis).on store = (.ok (), later)

theorem ends_importGenesis {config : Config} {value : Unit} :
    Ends (importGenesis FileSystem.host config) store system value later after ↔
      after = system ∧ Imported config system store later := by
  rcases given : config.genesisPath with _ | path
  · simp [importGenesis, Imported, given, ends_log, and_comm]
  · simp only [importGenesis, Imported, given, ends_bind, ends_attempt, FileSystem.host_files,
      GenesisFile.load_eq_ok, ends_onStore, ends_log, reduceCtorEq, false_implies, true_and,
      Option.mem_def, Option.some.injEq, forall_eq']
    constructor
    · rintro ⟨genesis, _, _, ⟨⟨rfl, content, read, decoded⟩, rfl⟩, _, _, _, ⟨imported, rfl⟩,
        _, _, _, ⟨rfl, rfl⟩, rfl, rfl⟩
      exact ⟨rfl, content, genesis, read, decoded, imported⟩
    · rintro ⟨rfl, content, genesis, read, decoded, imported⟩
      exact ⟨genesis, store, after, ⟨⟨rfl, content, read, decoded⟩, rfl⟩,
        (), later, after, ⟨imported, rfl⟩, (), later, after, ⟨rfl, rfl⟩, rfl, rfl⟩

/-- The export holds the registry, if there is one, and nothing else is written. -/
def Exported (config : Config) (store : Store) (system after : FileSystem) : Prop :=
  (config.exportPath = none → after = system) ∧
    ∀ target ∈ config.exportPath, ∃ genesis, Registry.exportGenesis store = .ok genesis ∧
      system.write target (GenesisFile.encode genesis) = .ok after

theorem ends_exportGenesis {config : Config} {value : Unit} :
    Ends (exportGenesis FileSystem.host config) store system value later after ↔
      later = store ∧ Exported config store system after := by
  rcases given : config.exportPath with _ | target
  · simp [exportGenesis, Exported, given, ends_pure]
  · simp only [exportGenesis, Exported, given, ends_bind, ends_onStore, ends_attempt, ends_log,
      Operation.on_ask, FileSystem.host_files, reduceCtorEq, false_implies, true_and,
      Option.mem_def, Option.some.injEq, forall_eq', Prod.mk.injEq]
    constructor
    · rintro ⟨genesis, _, _, ⟨⟨found, rfl⟩, rfl⟩, _, _, _, ⟨saved, rfl⟩, rfl, rfl⟩
      exact ⟨rfl, genesis, found, GenesisFile.save_eq_ok.mp saved⟩
    · rintro ⟨rfl, genesis, found, written⟩
      exact ⟨genesis, later, system, ⟨⟨found, rfl⟩, rfl⟩, (), later, after,
        ⟨GenesisFile.save_eq_ok.mpr written, rfl⟩, rfl, rfl⟩

/-- A boot ends well if each of its steps does. -/
theorem run_eq_ok {config : Config} {summary : Registry.Summary} :
    (run FileSystem.host config).run system = ((.ok summary, store), after) ↔
      (∀ path ∈ config.genesisPath, system.isFile path = true ∧
        config.exportPath.any (Path.same · path) = false) ∧
      Imported config system .empty store ∧ Registry.summary store = .ok summary ∧
      Exported config store system after := by
  change Ends (start FileSystem.host config) .empty system summary store after ↔ _
  rw [start, ends_log_bind, ends_log_bind, ends_log_bind, ends_bind]
  constructor
  · rintro ⟨_, _, _, passed, afterCheck⟩
    rcases ends_attempt.mp passed with ⟨ran, rfl⟩
    rcases check_eq_ok.mp ran with ⟨rfl, checked⟩
    rcases ends_bind.mp afterCheck with ⟨_, _, _, loaded, afterImport⟩
    rcases ends_importGenesis.mp loaded with ⟨rfl, imported⟩
    rcases ends_bind.mp afterImport with ⟨_, _, _, asked, afterCount⟩
    rcases ends_onStore.mp asked with ⟨answered, rfl⟩
    rw [Operation.on_ask, Prod.mk.injEq] at answered
    rcases answered with ⟨counted, rfl⟩
    rcases ends_bind.mp (ends_log_bind.mp afterCount) with ⟨_, _, _, saved, afterExport⟩
    rcases ends_exportGenesis.mp saved with ⟨rfl, exported⟩
    rcases ends_pure.mp afterExport with ⟨rfl, rfl, rfl⟩
    exact ⟨checked, imported, counted, exported⟩
  · rintro ⟨checked, imported, counted, exported⟩
    refine ⟨(), .empty, system, ends_attempt.mpr ⟨check_eq_ok.mpr ⟨rfl, checked⟩, rfl⟩, ?_⟩
    refine ends_bind.mpr ⟨(), store, system, ends_importGenesis.mpr ⟨rfl, imported⟩, ?_⟩
    refine ends_bind.mpr ⟨summary, store, system, ends_onStore.mpr ⟨?_, rfl⟩, ?_⟩
    · rw [Operation.on_ask, counted]
    · refine ends_log_bind.mpr (ends_bind.mpr ⟨(), store, after, ?_, ?_⟩)
      · exact ends_exportGenesis.mpr ⟨rfl, exported⟩
      · exact ends_pure.mpr ⟨rfl, rfl, rfl⟩

/-! ## The genesis -/

section Files

variable {config : Config} {path : String} {content : Bytes}
  (exported : Exported config store system after) (read : system.read path = .ok content)

include exported read

/-- A file stays as it was if the export goes elsewhere. -/
theorem Exported.read_of_elsewhere
    (elsewhere : ∀ target ∈ config.exportPath, system.locate target ≠ system.locate path) :
    after.read path = .ok content := by
  rcases given : config.exportPath with _ | target
  · rw [exported.1 given, read]
  · rcases exported.2 target given with ⟨genesis, _, written⟩
    rw [FileSystem.read_of_write_of_read written read, if_neg (elsewhere target given)]

theorem Exported.read_of_here {target : String} (given : config.exportPath = some target)
    (here : system.locate target = system.locate path) :
    ∃ genesis, Registry.exportGenesis store = .ok genesis ∧
      after.read path = .ok (GenesisFile.encode genesis) := by
  rcases exported.2 target given with ⟨genesis, found, written⟩
  exact ⟨genesis, found, by rw [FileSystem.read_of_write_of_read written read, if_pos here]⟩

theorem Exported.locate_eq_of_plain {target : String} (given : config.exportPath = some target)
    (same : Path.plain target = Path.plain path) :
    system.locate target = system.locate path := by
  rcases exported.2 target given with ⟨_, _, written⟩
  rcases FileSystem.exists_place_of_write written with ⟨place, leads, noDirectory, _⟩
  rcases FileSystem.exists_place_of_read read with ⟨file, leadsToFile, found⟩
  have fileNoDirectory : system.entry? file ≠ some .directory := by
    rw [found]
    simp
  rw [leads, leadsToFile,
    FileSystem.place_eq_of_plain same leads noDirectory leadsToFile fileNoDirectory]

end Files

/-- After a boot the genesis is as it was, unless the export path leads to it; then it is the
export. Of two paths that are equal but for dots and slashes both lead to the genesis, and the
boot takes place all the same if one of them has a dot in front. -/
theorem genesis_after_boot {config : Config} {path : String} {summary : Registry.Summary}
    (given : config.genesisPath = some path)
    (booted : (run FileSystem.host config).run system = ((.ok summary, store), after)) :
    ∃ content, system.read path = .ok content ∧
      ((∀ target ∈ config.exportPath, system.locate target ≠ system.locate path) →
        after.read path = .ok content) ∧
      ∀ target ∈ config.exportPath,
        (system.locate target = system.locate path →
          ∃ genesis, Registry.exportGenesis store = .ok genesis ∧
            after.read path = .ok (GenesisFile.encode genesis)) ∧
        (Path.plain target = Path.plain path →
          system.locate target = system.locate path ∧
            Path.beginsWithDot target = !Path.beginsWithDot path) := by
  rcases run_eq_ok.mp booted with ⟨checked, imported, _, exported⟩
  rcases imported.2 path given with ⟨content, _, read, _, _⟩
  refine ⟨content, read, exported.read_of_elsewhere read, ?_⟩
  intro target chosen
  refine ⟨exported.read_of_here read chosen, ?_⟩
  intro same
  refine ⟨exported.locate_eq_of_plain read chosen same, ?_⟩
  -- The check has passed, so there is a difference left: the dot in front.
  have apart := (checked path given).2
  rw [chosen, Option.any_some] at apart
  rw [Bool.eq_not]
  intro dots
  rw [Path.same_iff.mpr ⟨same, dots⟩] at apart
  cases apart

/-- A genesis of nothing. -/
def bareFiles : FileSystem :=
  ⟨[(Place.working.child "g.json".toList, Text.Utf8.encode "\x7b\x7d")], []⟩

/-- The files after the genesis has been overwritten. -/
def overwrittenFiles : FileSystem :=
  ⟨[(Place.working.child "g.json".toList, GenesisFile.encode .empty)], []⟩

/-- The export has a dot in front, and the genesis has none. -/
def dottedExport : Config :=
  { (default : Config) with genesisPath := some "g.json", exportPath := some "./g.json" }

theorem run_dottedExport :
    (run FileSystem.host dottedExport).run bareFiles =
      ((.ok (Registry.Summary.of .empty), .empty), overwrittenFiles) := by
  refine run_eq_ok.mpr ⟨?_, ⟨?_, ?_⟩, rfl, ?_, ?_⟩
  · rintro _ ⟨⟩
    exact ⟨by decide +kernel, by decide +kernel⟩
  · rintro ⟨⟩
  · rintro _ ⟨⟩
    exact ⟨Text.Utf8.encode "\x7b\x7d", .empty, by decide +kernel, by decide +kernel, rfl⟩
  · rintro ⟨⟩
  · rintro _ ⟨⟩
    exact ⟨.empty, rfl, by decide +kernel⟩

theorem genesis_after_boot_dottedExport :
    dottedExport.genesisPath = some "g.json" ∧
    (run FileSystem.host dottedExport).run bareFiles =
      ((.ok (Registry.Summary.of .empty), .empty), overwrittenFiles) ∧
    bareFiles.locate "./g.json" = bareFiles.locate "g.json" ∧
    ∃ genesis, Registry.exportGenesis .empty = .ok genesis ∧
      overwrittenFiles.read "g.json" = .ok (GenesisFile.encode genesis) := by
  rcases genesis_after_boot rfl run_dottedExport with ⟨_, _, _, targets⟩
  rcases targets "./g.json" rfl with ⟨overwritten, plainly⟩
  have same := (plainly (by decide)).1
  exact ⟨rfl, run_dottedExport, same, overwritten same⟩

/-- A boot that ends well may have overwritten its genesis. -/
theorem not_all_genesis_kept :
    ¬∀ (config : Config) (system after : FileSystem) (summary : Registry.Summary) (store : Store)
      (path : String), config.genesisPath = some path →
      (run FileSystem.host config).run system = ((.ok summary, store), after) →
      after.read path = system.read path := by
  intro kept
  have same := kept dottedExport bareFiles overwrittenFiles _ _ "g.json" rfl run_dottedExport
  have changed : overwrittenFiles.read "g.json" ≠ bareFiles.read "g.json" := by decide +kernel
  exact changed same

end Boot

end DeviceRegistry.Node
