import TemplateServer.Files.Tree
import TemplateServer.Report

/-!
# Walking a directory

`Tree.walk` lists every regular file below a root by the names that lead to it from there. Links are
followed, so the same file may be listed under several paths; a link back to a directory that is
being walked is an error, and so is a link to nothing.
-/

namespace TemplateServer.Files

/-- Why a walk came to an end. -/
inductive WalkError
  /-- The path leads nowhere. -/
  | unreadable (path : String) (refusal : Refusal)
  /-- The link leads back to a directory above it. -/
  | loop (path ancestor : String)
deriving DecidableEq, Repr

/-- The error, and what it was caused by. -/
def WalkError.cause : WalkError → Cause
  | unreadable path refusal =>
    .message s!"IO error for operation on {path}: {refusal.message}" [refusal.message]
  | loop path ancestor =>
    .message s!"File system loop found: {path} points to an ancestor {ancestor}" []

/-- The path of a name in a directory. No second slash is written after one. -/
def joinPath (directory name : String) : String :=
  if directory.isEmpty || directory.endsWith "/" then directory ++ name
  else directory ++ "/" ++ name

namespace Tree

/--
The files at and below a place, where `path` leads to the place, `names` lead there from the root of
the walk, and `above` holds the directories being walked with their paths, the nearest first. To see
what is in a directory, its path has to be followed once more. A place below `depth` directories is
given up as one whose path is too long.
-/
def filesBelow (t : Tree) : Nat → List (Place × String) → String → List String → Place →
    Except WalkError (List (List String))
  | 0, _, path, _, _ => .error (.unreadable path .nameTooLong)
  | depth + 1, above, path, names, place =>
    let inside (place : Place) : Except WalkError (List (List String)) := do
      let found ← (t.children place).mapM fun name =>
        filesBelow t depth ((place, path) :: above) (joinPath path name) (names ++ [name])
          (place ++ [name])
      return found.flatten
    match t.node? place with
    | none => .error (.unreadable path .missing)
    | some (.file ..) => .ok [names]
    | some (.directory _) =>
      match t.resolve path with
      | .error refusal => .error (.unreadable path refusal)
      | .ok place => inside place
    | some (.link _) =>
      match t.resolve path with
      | .error refusal => .error (.unreadable path refusal)
      | .ok target =>
        if !t.isDirectory target then .ok [names]
        else
          match above.find? (·.1 == target) with
          | some ancestor => .error (.loop path ancestor.2)
          | none => inside target

/-- The files at and below a root, each by the names that lead there from the root. -/
def walk (root : String) (t : Tree) : Except WalkError (List (List String)) :=
  match t.resolve root with
  | .error refusal => .error (.unreadable root refusal)
  | .ok place => t.filesBelow (maxPathLength + 1) [] root [] place

end Tree

end TemplateServer.Files
