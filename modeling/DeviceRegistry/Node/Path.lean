import DeviceRegistry.Text.Split
/-!
# Path texts

A path text names a file from the working directory. Two texts are taken for one path
if their components are equal: empty pieces and dots are left out, except for a dot in
front, which is a component of its own. So the comparison is one of texts, not of the
files that they lead to: `g.json` and `./g.json` lead to one file and differ.
-/

namespace DeviceRegistry.Node.Path

/-- The pieces of a path text between its slashes. -/
def pieces (characters : List Char) : List (List Char) :=
  Text.split '/' characters

/-- A component of a path text. -/
inductive Component where
  /-- The path begins at the root. -/
  | root
  /-- The path begins with a dot. -/
  | current
  | parent
  | name (characters : List Char)
deriving DecidableEq, Repr

/-- The component that a piece stands for after the first one. -/
def inner? (piece : List Char) : Option Component :=
  if piece = [] ∨ piece = ['.'] then none
  else if piece = ['.', '.'] then some .parent
  else some (.name piece)

def components (path : String) : List Component :=
  match pieces path.toList with
  | [] => []
  | first :: rest =>
    let front :=
      if first = [] ∧ rest ≠ [] then some .root
      else if first = ['.'] then some .current
      else inner? first
    front.toList ++ rest.filterMap inner?

/-- Whether two path texts are taken for one path. -/
def same (left right : String) : Bool :=
  components left = components right

end DeviceRegistry.Node.Path
