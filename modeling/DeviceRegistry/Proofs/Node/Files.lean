import Mathlib
import DeviceRegistry.Node.Files
import DeviceRegistry.Proofs.Outcomes
/-!
# What is written to a file is read from it

A path text is followed through directories only. So it leads to the same place for as
long as the directories stay, whatever becomes of the files.
-/

namespace DeviceRegistry.Node.FileSystem

variable {system after : FileSystem}

theorem entry?_eq_directory {place : Place} :
    system.entry? place = some .directory ↔
      (place.names.isEmpty || system.directories.contains place) = true := by
  unfold entry?
  split <;> simp_all

theorem enter_eq_ok {directory place : Place} {name : List Char} :
    system.enter directory name = .ok place ↔
      step directory name = .ok place ∧ system.entry? place = some .directory := by
  unfold enter
  rw [bind_eq_ok]
  constructor
  · rintro ⟨reached, stepped, found⟩
    split at found
    · rename_i directory
      cases found
      exact ⟨stepped, directory⟩
    · cases found
    · cases found
  · rintro ⟨stepped, directory⟩
    refine ⟨place, stepped, ?_⟩
    rw [directory]
    rfl

/-- The place at which a path text begins. -/
def start (path : List Char) : Place :=
  if path.head? = some '/' then ⟨.root, []⟩ else .working

/-- The names in a path text. -/
def names (path : List Char) : List (List Char) :=
  (Path.pieces path).filter (· ≠ [])

theorem route_eq_ok {path : List Char} {route : Route} :
    system.route path = .ok route ↔
      path.contains (Char.ofNat 0) = false ∧ path.isEmpty = false ∧
        ¬pathLimit < Text.Utf8.byteCount path ∧
        ∃ directory, (names path).dropLast.foldlM system.enter (start path) = .ok directory ∧
          ⟨directory, (names path).getLast?.getD ['.'], path.getLast? = some '/'⟩ = route := by
  simp only [FileSystem.route, start, names]
  cases path.contains (Char.ofNat 0) with
  | true => simp [bind, Except.bind]
  | false =>
    cases path.isEmpty with
    | true => simp [bind, Except.bind]
    | false =>
      by_cases long : pathLimit < Text.Utf8.byteCount path
      · simp [long, bind, Except.bind]
      · simp only [Bool.false_eq_true, if_false, long, not_false_eq_true, true_and]
        rw [bind_eq_ok]
        simp [pure, Except.pure]

section Kept

variable
  (kept : ∀ place, system.entry? place = some .directory → after.entry? place = some .directory)

include kept

theorem walk_of_kept {names : List (List Char)} {start place : Place}
    (walked : names.foldlM system.enter start = .ok place) :
    names.foldlM after.enter start = .ok place := by
  induction names generalizing start with
  | nil => exact walked
  | cons first rest hypothesis =>
    rw [List.foldlM_cons, bind_eq_ok] at walked ⊢
    rcases walked with ⟨next, entered, walked⟩
    rcases enter_eq_ok.mp entered with ⟨stepped, found⟩
    exact ⟨next, enter_eq_ok.mpr ⟨stepped, kept next found⟩, hypothesis walked⟩

/-- A path text is followed as before where every directory has stayed. -/
theorem route_of_kept {path : List Char} {route : Route}
    (followed : system.route path = .ok route) : after.route path = .ok route := by
  rcases route_eq_ok.mp followed with ⟨zero, nothing, short, directory, walked, rfl⟩
  exact route_eq_ok.mpr ⟨zero, nothing, short, directory, walk_of_kept kept walked, rfl⟩

end Kept

/-- A file is written where its path leads to, unless that is a directory. -/
theorem exists_route_of_write {path : String} {content : Bytes}
    (written : system.write path content = .ok after) :
    ∃ route place, system.route path.toList = .ok route ∧ route.endsWithSlash = false ∧
      step route.directory route.last = .ok place ∧ system.entry? place ≠ some .directory ∧
      after = { system with files := Association.assign place content system.files } := by
  simp only [FileSystem.write] at written
  rcases bind_eq_ok.mp written with ⟨route, followed, written⟩
  cases slash : route.endsWithSlash with
  | true => simp [slash, bind, Except.bind] at written
  | false =>
    simp only [slash, Bool.false_eq_true, if_false] at written
    rcases bind_eq_ok.mp written with ⟨place, stepped, written⟩
    by_cases directory : system.entry? place = some .directory
    · simp [directory, bind, Except.bind] at written
    · simp only [directory, if_false] at written
      cases written
      exact ⟨route, place, followed, slash, stepped, directory, rfl⟩

/-- The place that a path text leads to, be there a file or not. -/
def locate (system : FileSystem) (path : String) : Except FileError Place := do
  let route ← system.route path.toList
  step route.directory route.last

/-- A file is read where its path leads to, and no slash may follow its name. -/
theorem read_eq_ok {path : String} {content : Bytes} :
    system.read path = .ok content ↔
      ∃ route place, system.route path.toList = .ok route ∧ route.endsWithSlash = false ∧
        step route.directory route.last = .ok place ∧
        system.entry? place = some (.file content) := by
  rw [FileSystem.read, bind_eq_ok]
  constructor
  · rintro ⟨route, followed, found⟩
    rcases bind_eq_ok.mp found with ⟨place, stepped, found⟩
    refine ⟨route, place, followed, ?_⟩
    split at found
    · cases found
    · split at found
      · cases found
      · rename_i noSlash
        cases found
        exact ⟨Bool.eq_false_of_not_eq_true noSlash, stepped, ‹_›⟩
    · cases found
  · rintro ⟨route, place, followed, noSlash, stepped, found⟩
    refine ⟨route, followed, bind_eq_ok.mpr ⟨place, stepped, ?_⟩⟩
    rw [found, noSlash]
    rfl

/-- What was readable is a file where its path leads to. -/
theorem exists_place_of_read {path : String} {content : Bytes}
    (read : system.read path = .ok content) :
    ∃ place, system.locate path = .ok place ∧ system.entry? place = some (.file content) := by
  rcases read_eq_ok.mp read with ⟨route, place, followed, _, stepped, found⟩
  exact ⟨place, bind_eq_ok.mpr ⟨route, followed, stepped⟩, found⟩

section Written

variable {target : String} {content : Bytes} (written : system.write target content = .ok after)

include written

/-- A file takes its place, and nothing else changes. -/
theorem exists_place_of_write :
    ∃ place, system.locate target = .ok place ∧ system.entry? place ≠ some .directory ∧
      ∀ other, after.entry? other =
        if other = place then some (.file content) else system.entry? other := by
  rcases exists_route_of_write written with
    ⟨route, place, followed, _, stepped, noDirectory, rfl⟩
  refine ⟨place, bind_eq_ok.mpr ⟨route, followed, stepped⟩, noDirectory, ?_⟩
  intro other
  rw [ne_eq, entry?_eq_directory] at noDirectory
  simp only [Association.lookup_assign, entry?]
  by_cases there : other = place
  · simp only [there, noDirectory, Bool.false_eq_true, if_true, if_false, Option.map_some]
  · simp only [there, if_false]

theorem route_of_write {path : List Char} {route : Route}
    (followed : system.route path = .ok route) : after.route path = .ok route := by
  rcases exists_place_of_write written with ⟨place, _, noDirectory, entries⟩
  refine route_of_kept ?_ followed
  intro other directory
  have elsewhere : other ≠ place := by
    rintro rfl
    exact noDirectory directory
  rw [entries, if_neg elsewhere, directory]

theorem read_of_write : after.read target = .ok content := by
  rcases exists_route_of_write written with ⟨route, place, followed, noSlash, stepped, _⟩
  rcases exists_place_of_write written with ⟨located, leads, _, entries⟩
  have here : located = place := by
    rw [locate, followed] at leads
    exact Except.ok.inj (leads.symm.trans stepped)
  refine read_eq_ok.mpr ⟨route, place, route_of_write written followed, noSlash, stepped, ?_⟩
  rw [entries, if_pos here.symm]

/-- A file keeps its content unless its path leads to where the new one was written. -/
theorem read_of_write_of_read {path : String} {before : Bytes}
    (read : system.read path = .ok before) :
    after.read path =
      .ok (if system.locate target = system.locate path then content else before) := by
  rcases read_eq_ok.mp read with ⟨route, place, followed, noSlash, stepped, found⟩
  rcases exists_place_of_write written with ⟨changed, leads, _, entries⟩
  have located : system.locate path = .ok place := bind_eq_ok.mpr ⟨route, followed, stepped⟩
  refine read_eq_ok.mpr ⟨route, place, route_of_write written followed, noSlash, stepped, ?_⟩
  rw [entries, leads, located]
  by_cases same : changed = place
  · simp only [same, if_true]
  · simp only [Ne.symm same, same, Except.ok.injEq, if_false, found]

end Written

end DeviceRegistry.Node.FileSystem
