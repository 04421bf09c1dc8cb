import TemplateServer.Files.Path

/-!
# Identities of template sources

A request names its template by a path that a client may spell in many ways. `Identity.normalize`
follows the path from the document root, piece by piece, and answers where it ends: the list of
names from the root down to the source. Two spellings of one source have equal identities, so an
identity serves as the key of the cache, and because every name in it is an ordinary name, no
identity leads outside the root.

`follow` is the walk itself: the trail of names passed so far, innermost first, so that `..` takes
one name off and fails where there is none.
-/

namespace TemplateServer

/-- Both slashes separate the pieces of a path. -/
def isSeparator (c : Char) : Bool := c == '/' || c == '\x5c'

/-- An ordinary name: not empty, neither `.` nor `..`, and without separators. -/
def IsName (cs : List Char) : Prop :=
  cs ≠ [] ∧ cs ≠ ['.'] ∧ cs ≠ ['.', '.'] ∧ ∀ c ∈ cs, isSeparator c = false

instance : DecidablePred IsName := fun cs =>
  decidable_of_iff
    ((!cs.isEmpty && cs != ['.'] && cs != ['.', '.'] && cs.all fun c => !isSeparator c) = true)
    (by simp [IsName, and_assoc])

/-- A name on the way from the document root to a source. -/
abbrev Name := { cs : List Char // IsName cs }

/-- Normalized path of one template source under the document root. -/
structure Identity where
  /-- The names from the root down to the source. -/
  names : List Name
  /-- The root itself is no source. -/
  names_ne_nil : names ≠ []
deriving DecidableEq

/-- Why a path names no source. The path is quoted as it was given. -/
inductive PathError
  /-- The path ends at the document root. -/
  | noTemplate (path : String)
  /-- The path climbs above the document root. -/
  | escapesRoot (path : String)
deriving DecidableEq, Repr

def PathError.message : PathError → String
  | noTemplate path => s!"path '{path}' does not name a template"
  | escapesRoot path => s!"path '{path}' escapes the document root"

/-- Where a piece of a path leads. -/
inductive Move
  /-- An empty piece or `.` stays where it is. -/
  | stay
  /-- The piece `..` goes to the parent. -/
  | up
  /-- Any other piece goes down. -/
  | down (name : Name)

/-- The move that a piece asks for. -/
def Move.ofPiece (piece : List Char) : Move :=
  if piece = ['.', '.'] then .up
  else if h : IsName piece then .down ⟨piece, h⟩
  else .stay

/-- Follows moves from the place that `trail` (innermost name first) leads to; fails where a move
goes above the root. -/
def follow : List Name → List Move → Option (List Name)
  | trail, [] => some trail
  | trail, .stay :: moves => follow trail moves
  | [], .up :: _ => none
  | _ :: trail, .up :: moves => follow trail moves
  | trail, .down name :: moves => follow (name :: trail) moves

def movesOf (path : List Char) : List Move := (Text.pieces isSeparator path).map Move.ofPiece

namespace Identity

/-- The source at the end of a trail of names, innermost first; the root is none. -/
def ofTrail? : List Name → Option Identity
  | [] => none
  | n :: trail => some ⟨(n :: trail).reverse, by simp⟩

/-- The identity that a path leads to. -/
def normalize (path : String) : Except PathError Identity :=
  match follow [] (movesOf path.toList) with
  | none => .error (.escapesRoot path)
  | some trail =>
    match ofTrail? trail with
    | none => .error (.noTemplate path)
    | some identity => .ok identity

/-- The path of an identity: a slash before each name. -/
def chars (i : Identity) : List Char := i.names.flatMap fun n => '/' :: n.val

def text (i : Identity) : String := String.ofList i.chars

/-- The path relative to the document root: the names with a slash between each two. -/
def relative (i : Identity) : String := String.ofList (Text.joinWith '/' (i.names.map (·.val)))

instance : ToString Identity := ⟨text⟩

/-- Identities are listed in the order of their paths, character by character. -/
def le (i j : Identity) : Bool := !decide (j.chars < i.chars)

def sort (ids : List Identity) : List Identity := ids.mergeSort le

/-- Identities in order, each one once. -/
def sortDistinct (ids : List Identity) : List Identity := (sort ids).eraseReps

/-- The file of a source under a document root: its relative path, followed from the root. -/
def fileUnder (root : String) (i : Identity) : String := Files.join root i.relative

end Identity

theorem Move.ofPiece_name (n : Name) : Move.ofPiece n.val = .down n := by
  obtain ⟨cs, h⟩ := n
  unfold Move.ofPiece
  rw [if_neg h.2.2.1, dif_pos h]

theorem follow_append (trail : List Name) (ms ns : List Move) :
    follow trail (ms ++ ns) = (follow trail ms).bind (follow · ns) := by
  fun_induction follow trail ms <;> simp_all [follow]

/-- Going down a list of names leaves them on the trail. -/
theorem follow_down (trail : List Name) (names : List Name) :
    follow trail (names.map .down) = some (names.reverse ++ trail) := by
  induction names generalizing trail with
  | nil => rfl
  | cons n ns ih => simp [follow, ih]

end TemplateServer
