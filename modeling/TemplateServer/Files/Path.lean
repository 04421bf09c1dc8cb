import TemplateServer.Text.Pieces

/-!
# Paths

A path is a text in which slashes stand between names. `namesOf` takes it apart, `join` follows a
path from a directory, and `parent?` cuts its last name off and leaves the rest as it was written. A
path that starts with a slash leads on from the top of all directories; one that starts with a dot
keeps the dot.
-/

namespace TemplateServer.Files

/-- The names in a path, with an empty one for each slash too many. -/
def namesOf (path : String) : List String :=
  (Text.pieces (· == '/') path.toList).map String.ofList

/-- The most octets that a name may take. -/
def maxNameLength : Nat := 255

/-- The most octets that a path may take. -/
def maxPathLength : Nat := 4095

/-- The path that another path leads to from a directory. One that starts with a slash leads on from
the top of all directories, whatever the directory; any other follows the directory, with a slash
between them if there is none yet. -/
def join (directory path : String) : String :=
  if path.startsWith "/" then path
  else if directory.isEmpty || directory.endsWith "/" then directory ++ path
  else directory ++ "/" ++ path

/-- A list without the elements with a property at its end. -/
def dropTrailing {α : Type} (p : α → Bool) (xs : List α) : List α :=
  (xs.reverse.dropWhile p).reverse

/-- The beginning of a path that no name belongs to, which is a slash or a dot that stands alone,
and what follows it. -/
def splitHead : List Char → List Char × List Char
  | '/' :: cs => (['/'], cs)
  | ['.'] => (['.'], [])
  | '.' :: '/' :: cs => (['.'], '/' :: cs)
  | cs => ([], cs)

/-- Whether a name in a path leads nowhere: an empty one, or a dot. -/
def isIdle (name : List Char) : Bool := name == [] || name == ['.']

/-- A path without its last name, and without what leads nowhere at its end; the top of all
directories and the empty path have no name to lose. -/
def parent? (path : String) : Option String :=
  let (head, body) := splitHead path.toList
  let names := dropTrailing isIdle (Text.pieces (· == '/') body)
  if names.isEmpty then (if head == ['.'] then some "" else none)
  else
    let rest := dropTrailing isIdle names.dropLast
    some (String.ofList (head ++ Text.joinWith '/' rest))

end TemplateServer.Files
