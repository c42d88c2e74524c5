import Mathlib
import DeviceRegistry.Proofs.Node.Files
/-!
# Spellings of a path

Where a path text leads to depends neither on the dots in it nor on how many slashes stand
between its names. Whether two texts are taken for one path does not depend on them either,
except for a dot in front. So two texts that lead to one file may be taken for two paths.
-/

namespace DeviceRegistry.Node

namespace Path

/-- What is left of a path text without its dots and its empty pieces. -/
structure Plain where
  fromRoot : Bool
  names : List (List Char)
deriving DecidableEq, Repr

def plain (path : String) : Plain where
  fromRoot := path.toList.head? = some '/'
  names := (FileSystem.names path.toList).filter (· ≠ ['.'])

def beginsWithDot (path : String) : Bool :=
  (pieces path.toList).head? = some ['.']

/-! ## Texts that are taken for one path -/

/-- The component that a name stands for. -/
def component (name : List Char) : Component :=
  if name = ['.', '.'] then .parent else .name name

theorem component_injective : Function.Injective component := by
  intro left right same
  simp only [component] at same
  split at same <;> split at same <;> simp_all

theorem filterMap_inner? (pieces : List (List Char)) :
    pieces.filterMap inner? = ((pieces.filter (· ≠ [])).filter (· ≠ ['.'])).map component := by
  induction pieces with
  | nil => rfl
  | cons first rest hypothesis =>
    rw [List.filterMap_cons, hypothesis]
    by_cases nothing : first = []
    · simp [inner?, nothing]
    · by_cases dot : first = ['.']
      · simp [inner?, dot]
      · by_cases parent : first = ['.', '.']
        · simp [inner?, component, parent]
        · simp [inner?, component, nothing, dot, parent]

/-- The first piece is empty, with others after it, if the text begins with a slash. -/
theorem exists_pieces (characters : List Char) :
    ∃ first rest, pieces characters = first :: rest ∧
      ((first = [] ∧ rest ≠ []) ↔ characters.head? = some '/') := by
  cases characters with
  | nil => exact ⟨[], [], rfl, by simp⟩
  | cons character others =>
    have someRest := Text.split_ne_nil '/' others
    by_cases slash : character = '/'
    · refine ⟨[], Text.split '/' others, ?_, ?_⟩
      · simp [pieces, Text.split, slash]
      · simp [someRest, slash]
    · rcases split : Text.split '/' others with _ | ⟨first, rest⟩
      · exact absurd split someRest
      · refine ⟨character :: first, rest, ?_, ?_⟩
        · simp [pieces, Text.split, slash, split]
        · simp [slash]

theorem not_beginsWithDot_of_fromRoot {path : String} (root : (plain path).fromRoot = true) :
    beginsWithDot path = false := by
  rcases exists_pieces path.toList with ⟨first, rest, split, fromRoot⟩
  rcases fromRoot.mpr (of_decide_eq_true root) with ⟨rfl, _⟩
  simp [beginsWithDot, split]

/-- What a path text has in front of its names. -/
def front (path : String) : List Component :=
  if (plain path).fromRoot then [.root] else if beginsWithDot path then [.current] else []

theorem front_eq_iff {left right : String} :
    front left = front right ↔
      (plain left).fromRoot = (plain right).fromRoot ∧
        beginsWithDot left = beginsWithDot right := by
  have leftRoot := @not_beginsWithDot_of_fromRoot left
  have rightRoot := @not_beginsWithDot_of_fromRoot right
  rw [front, front]
  revert leftRoot rightRoot
  generalize (plain left).fromRoot = leftRoot, (plain right).fromRoot = rightRoot,
    beginsWithDot left = leftDot, beginsWithDot right = rightDot
  revert leftRoot rightRoot leftDot rightDot
  decide

theorem components_eq (path : String) :
    components path = front path ++ (plain path).names.map component := by
  rcases exists_pieces path.toList with ⟨first, rest, split, fromRoot⟩
  simp only [components, front, plain, beginsWithDot, FileSystem.names, split, ← filterMap_inner?,
    ← fromRoot]
  by_cases root : first = [] ∧ rest ≠ []
  · simp [root, inner?]
  · by_cases dot : first = ['.']
    · simp [dot, inner?]
    · rcases inner : inner? first with _ | component <;> simp [root, dot, inner]

/-- Whether a component can only stand in front. -/
def Component.leads : Component → Bool
  | .root | .current => true
  | .parent | .name _ => false

theorem filter_leads_components (path : String) :
    (components path).filter Component.leads = front path := by
  have name : ∀ name, (component name).leads = false := by
    intro name
    rw [component]
    split <;> rfl
  have names : ((plain path).names.map component).filter Component.leads = [] := by
    simp [List.filter_eq_nil_iff, name]
  have fronts : (front path).filter Component.leads = front path := by
    rw [front]
    split
    · rfl
    · split <;> rfl
  rw [components_eq, List.filter_append, names, fronts, List.append_nil]

/-- Two texts are taken for one path if they are equal but for dots and slashes, and if both or
neither of them has a dot in front. -/
theorem same_iff {left right : String} :
    same left right = true ↔
      plain left = plain right ∧ beginsWithDot left = beginsWithDot right := by
  rw [same, decide_eq_true_iff]
  constructor
  · intro equal
    have fronts : front left = front right := by
      rw [← filter_leads_components, equal, filter_leads_components]
    rw [components_eq, components_eq, fronts] at equal
    have names := component_injective.list_map (List.append_cancel_left equal)
    rcases front_eq_iff.mp fronts with ⟨root, dots⟩
    exact ⟨by rw [Plain.mk.injEq]; exact ⟨root, names⟩, dots⟩
  · rintro ⟨plainly, dots⟩
    rw [components_eq, components_eq, plainly, front_eq_iff.mpr ⟨by rw [plainly], dots⟩]

example : same "a/./b" "a//b/" = true ∧ same "./a" "a" = false := by decide

end Path

namespace FileSystem

variable {system : FileSystem}

/-! ## Dots on the way -/

theorem entry?_start (path : List Char) : system.entry? (start path) = some .directory := by
  rw [entry?_eq_directory, start]
  split <;> rfl

theorem walk_directory {names : List (List Char)} {start place : Place}
    (begins : system.entry? start = some .directory)
    (walked : names.foldlM system.enter start = .ok place) :
    system.entry? place = some .directory := by
  induction names generalizing start with
  | nil =>
    cases walked
    exact begins
  | cons first rest hypothesis =>
    rw [List.foldlM_cons, bind_eq_ok] at walked
    rcases walked with ⟨next, entered, walked⟩
    exact hypothesis (enter_eq_ok.mp entered).2 walked

theorem walk_without_dots (names : List (List Char)) {start : Place}
    (begins : system.entry? start = some .directory) :
    (names.filter (· ≠ ['.'])).foldlM system.enter start = names.foldlM system.enter start := by
  induction names generalizing start with
  | nil => rfl
  | cons first rest hypothesis =>
    by_cases dot : first = ['.']
    · have stays : system.enter start first = .ok start :=
        enter_eq_ok.mpr ⟨by simp [step, dot], begins⟩
      rw [List.foldlM_cons, stays, List.filter_cons_of_neg (by simp [dot])]
      exact hypothesis begins
    · rw [List.filter_cons_of_pos (by simp [dot]), List.foldlM_cons, List.foldlM_cons]
      rcases entered : system.enter start first with fault | next
      · rfl
      · exact hypothesis (enter_eq_ok.mp entered).2

/-- The place that a path text leads to that has neither dots nor empty pieces. -/
def follow (system : FileSystem) (plain : Path.Plain) : Except FileError Place := do
  let start : Place := if plain.fromRoot then ⟨.root, []⟩ else .working
  let directory ← plain.names.dropLast.foldlM system.enter start
  step directory (plain.names.getLast?.getD ['.'])

/-- A path text that leads to no directory leads to where it leads without its dots. -/
theorem follow_plain {path : String} {place : Place} (leads : system.locate path = .ok place)
    (noDirectory : system.entry? place ≠ some .directory) :
    system.follow (Path.plain path) = .ok place := by
  rcases bind_eq_ok.mp leads with ⟨route, followed, stepped⟩
  rcases route_eq_ok.mp followed with ⟨_, _, _, directory, walked, rfl⟩
  have reached := walk_directory (entry?_start _) walked
  -- With a dot at its end the text would lead to the directory itself.
  have noDot : (names path.toList).getLast?.getD ['.'] ≠ ['.'] := by
    intro dot
    simp only [step, dot, if_true, Except.ok.injEq] at stepped
    exact noDirectory (stepped ▸ reached)
  rcases List.eq_nil_or_concat' (names path.toList) with nothing | ⟨others, last, split⟩
  · simp [nothing] at noDot
  · rw [split] at walked stepped noDot
    simp only [List.dropLast_concat, List.getLast?_concat, Option.getD_some] at walked stepped noDot
    have kept : (others ++ [last]).filter (· ≠ ['.']) = others.filter (· ≠ ['.']) ++ [last] := by
      rw [List.filter_append, List.filter_cons_of_pos (by simp [noDot]), List.filter_nil]
    refine bind_eq_ok.mpr ⟨directory, ?_, ?_⟩
    · simp only [Path.plain, split, kept, List.dropLast_concat, decide_eq_true_eq]
      exact (walk_without_dots others (entry?_start _)).trans walked
    · simp only [Path.plain, split, kept, List.getLast?_concat, Option.getD_some]
      exact stepped

/-- Texts that differ only in dots and slashes lead to one place, unless it is a directory. -/
theorem place_eq_of_plain {left right : String} {first second : Place}
    (same : Path.plain left = Path.plain right)
    (leadsFirst : system.locate left = .ok first)
    (noDirectoryFirst : system.entry? first ≠ some .directory)
    (leadsSecond : system.locate right = .ok second)
    (noDirectorySecond : system.entry? second ≠ some .directory) : first = second := by
  have alongFirst := follow_plain leadsFirst noDirectoryFirst
  rw [same, follow_plain leadsSecond noDirectorySecond] at alongFirst
  exact (Except.ok.inj alongFirst).symm

end FileSystem

end DeviceRegistry.Node
