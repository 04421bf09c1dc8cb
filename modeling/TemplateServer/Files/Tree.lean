import TemplateServer.Failure
import TemplateServer.Files.Path
import TemplateServer.Text.Utf8

/-!
# File trees

A `Tree` holds the files that the program may see: regular files, directories and symbolic links,
each under its place, the list of names that leads to it from the top of all directories. `resolve`
follows a path from there or from the working directory, through links, as an operating system does,
and says why it cannot.
-/

namespace TemplateServer.Files

/-- The names that lead from the top of all directories to a node. No node on the way is a link. -/
abbrev Place := List String

/-- What stands at a place. -/
inductive Node
  | file (content : List UInt8) (modified : Nat)
  | directory (modified : Nat)
  | link (target : String)

/-- All nodes but the topmost directory. Every node stands in a directory. -/
structure Tree where
  /-- The place of the working directory. -/
  here : Place
  nodes : List (Place × Node)

/-- Why a path leads nowhere or a file cannot be read. -/
inductive Refusal
  | missing
  | notDirectory
  | isDirectory
  | occupied
  | nameTooLong
  | tooManyLinks
  | notText
  | nulInName
deriving DecidableEq, Repr

namespace Refusal

def kind : Refusal → IoKind
  | missing => .notFound
  | notText => .invalidData
  | notDirectory | isDirectory | occupied | nameTooLong | tooManyLinks | nulInName => .other

def message : Refusal → String
  | missing => "No such file or directory (os error 2)"
  | notDirectory => "Not a directory (os error 20)"
  | isDirectory => "Is a directory (os error 21)"
  | occupied => "File exists (os error 17)"
  | nameTooLong => "File name too long (os error 36)"
  | tooManyLinks => "Too many levels of symbolic links (os error 40)"
  | notText => "stream did not contain valid UTF-8"
  | nulInName => "file name contained an unexpected NUL byte"

def error (r : Refusal) : IoError := ⟨r.kind, r.message⟩

end Refusal

/-- The most links that are followed on the way along one path. -/
def maxLinks : Nat := 40

namespace Tree

def node? (place : Place) (t : Tree) : Option Node :=
  if place.isEmpty then some (.directory 0) else t.nodes.lookup place

def isDirectory (place : Place) (t : Tree) : Bool :=
  match t.node? place with
  | some (.directory _) => true
  | _ => false

/-- Takes out the node at a place and all nodes below it. -/
def erase (place : Place) (t : Tree) : Tree :=
  { t with nodes := t.nodes.filter fun n => !place.isPrefixOf n.1 }

/-- Puts a node at a place where none is. -/
def add (place : Place) (node : Node) (t : Tree) : Tree :=
  { t with nodes := t.nodes ++ [(place, node)] }

/-- Makes the directories on the way along `names` from a place, where they are missing. -/
def addDirectories (modified : Nat) (place : Place) : List String → Tree → Tree
  | [], t => t
  | name :: names, t =>
    let place := place ++ [name]
    addDirectories modified place names
      (if (t.node? place).isSome then t else t.add place (.directory modified))

/-- A tree with nothing but the working directory and the directories above it. -/
def workingIn (here : Place) : Tree := addDirectories 0 [] here ⟨here, []⟩

/-- Puts a node at a place, with the directories above it. -/
def put (place : Place) (node : Node) (t : Tree) : Tree :=
  ((t.erase place).addDirectories 0 [] place.dropLast).add place node

/-- The names of the nodes that stand in the directory at a place. -/
def children (place : Place) (t : Tree) : List String :=
  t.nodes.filterMap fun n =>
    if n.1.dropLast == place && n.1.length == place.length + 1 then n.1.getLast? else none

/--
The place that the names lead to from another place. Each name is looked up in a directory; a link
is replaced by the names in its target, `links` times at most. A target that starts with a slash
leads on from the top.
-/
def resolveFrom (t : Tree) : Nat → Place → List String → Except Refusal Place
  | _, place, [] => .ok place
  | links, place, name :: names =>
    if !t.isDirectory place then .error .notDirectory
    else if name = "" ∨ name = "." then resolveFrom t links place names
    else if name = ".." then resolveFrom t links place.dropLast names
    else if maxNameLength < Utf8.length name then .error .nameTooLong
    else
      match t.node? (place ++ [name]) with
      | none => .error .missing
      | some (.link target) =>
        match links with
        | 0 => .error .tooManyLinks
        | links + 1 =>
          resolveFrom t links (if target.startsWith "/" then [] else place)
            (namesOf target ++ names)
      | some _ => resolveFrom t links (place ++ [name]) names
termination_by links _ names => (links, names.length)

/-- The place that a path starts from. -/
def start (path : String) (t : Tree) : Place := if path.startsWith "/" then [] else t.here

/-- Why no path can be written like this, whatever the tree holds. -/
def flaw? (path : String) : Option Refusal :=
  if path.isEmpty then some .missing
  else if path.toList.contains '\x00' then some .nulInName
  else if maxPathLength < Utf8.length path then some .nameTooLong
  else none

/-- The place that a path leads to. -/
def resolve (path : String) (t : Tree) : Except Refusal Place :=
  match flaw? path with
  | some refusal => .error refusal
  | none => t.resolveFrom maxLinks (t.start path) (namesOf path)

/-- What a path leads to, links followed. -/
def follow (path : String) (t : Tree) : Except Refusal Node := do
  match t.node? (← t.resolve path) with
  | some node => .ok node
  | none => .error .missing

/-- Makes the directories on the way along `names`, where they are missing. The names before them
lead from a place to a directory that is there. -/
def makeAlong (place : Place) (before : List String) : List String → Tree → Except Refusal Tree
  | [], t => .ok t
  | name :: names, t =>
    match t.resolveFrom maxLinks place (before ++ [name]) with
    | .ok found =>
      if names.isEmpty && !t.isDirectory found then .error .occupied
      else makeAlong place (before ++ [name]) names t
    | .error .missing =>
      match t.resolveFrom maxLinks place before with
      | .ok parent =>
        -- a link that leads nowhere is in the way
        if (t.node? (parent ++ [name])).isSome then .error .occupied
        else makeAlong place (before ++ [name]) names (t.add (parent ++ [name]) (.directory 0))
      | .error refusal => .error refusal
    | .error refusal => .error refusal

/-- Makes the directory that a path leads to, with those above it, where they are missing. An empty
path leads to the working directory. -/
def makeDirectories (path : String) (t : Tree) : Except Refusal Tree :=
  if path.isEmpty then .ok t
  else
    match flaw? path with
    | some refusal => .error refusal
    | none => t.makeAlong (t.start path) [] (namesOf path)

/--
The place of the file that the names lead to from another place, or the place where it is to be
made: the last name may be missing in its directory. Links are followed, `links` of them at most,
also to a file that is missing. Names that end in a slash or in dots lead to no file.
-/
def fileFrom (t : Tree) : Nat → Place → List String → Except Refusal Place
  | _, _, [] => .error .isDirectory
  | links, place, name :: names =>
    if !t.isDirectory place then .error .notDirectory
    else if name = "" ∨ name = "." then fileFrom t links place names
    else if name = ".." then fileFrom t links place.dropLast names
    else if names ≠ [] ∧ ∀ other ∈ names, other = "" then .error .isDirectory
    else if maxNameLength < Utf8.length name then .error .nameTooLong
    else
      match t.node? (place ++ [name]) with
      | none => if names = [] then .ok (place ++ [name]) else .error .missing
      | some (.link target) =>
        match links with
        | 0 => .error .tooManyLinks
        | links + 1 =>
          fileFrom t links (if target.startsWith "/" then [] else place) (namesOf target ++ names)
      | some (.file ..) =>
        if names = [] then .ok (place ++ [name]) else fileFrom t links (place ++ [name]) names
      | some (.directory _) => fileFrom t links (place ++ [name]) names
termination_by links _ names => (links, names.length)

/-- Puts a file at a place, instead of the one that is there. -/
def putFile (place : Place) (content : List UInt8) (t : Tree) : Tree :=
  { t with nodes := t.nodes.filter (fun n => n.1 ≠ place) ++ [(place, .file content 0)] }

/-- Puts a text into the file that a path leads to. A file that is missing is made, in a directory
that is there. -/
def writeText (path text : String) (t : Tree) : Except Refusal Tree :=
  match flaw? path with
  | some refusal => .error refusal
  | none =>
    match t.fileFrom maxLinks (t.start path) (namesOf path) with
    | .ok place => .ok (t.putFile place text.toUTF8.toList)
    | .error refusal => .error refusal

/-- Whether a path leads to a regular file. -/
def hasFile (path : String) (t : Tree) : Bool :=
  match t.follow path with
  | .ok (.file ..) => true
  | _ => false

/-- Whether a path leads to a directory. -/
def hasDirectory (path : String) (t : Tree) : Bool :=
  match t.follow path with
  | .ok (.directory _) => true
  | _ => false

/-- When the node that a path leads to was last changed. -/
def modified? (path : String) (t : Tree) : Option Nat :=
  match t.follow path with
  | .ok (.file _ modified) | .ok (.directory modified) => some modified
  | _ => none

/-- The text in the file that a path leads to. -/
def readText (path : String) (t : Tree) : Except Refusal String := do
  match ← t.follow path with
  | .file content _ =>
    match Utf8.decode? content with
    | some chars => .ok (String.ofList chars)
    | none => .error .notText
  | .directory _ => .error .isDirectory
  | .link _ => .error .missing

end Tree

end TemplateServer.Files
