import TemplateServer.Template.Piece
import TemplateServer.Text.Blank

/-!
# Templates as trees

The pieces of a template form a tree: what stands between the tags that open and close a block, a
condition or a loop belongs to it. `nodes` builds the tree, and says where the tags do not fit.

White space is taken away while the tree is built. A tag that opens something or stands alone takes
it from the texts beside it. A tag that closes something takes it from the last text inside, and a
tag that goes on with a condition does both. In a loop only the tags at its ends do so: what is
written for an empty loop keeps its white space, with all tags inside of it.
-/

namespace TemplateServer.Template

/-- A part of a template. -/
inductive Node
  | text (cs : List Char)
  /-- A text from which no tag outside takes white space away. -/
  | raw (cs : List Char)
  | output (e : Expr)
  | assign (name : String) (e : Expr)
  | inclusion (names : List String) (optional : Bool)
  | block (name : String) (body : List Node)
  /-- The first case whose condition holds, or else the last part. -/
  | branch (cases : List (Expr × List Node)) (otherwise : List Node)
  /-- The body for each element, or the last part if there is none. -/
  | loop (key : Option String) (value : String) (container : Expr) (body otherwise : List Node)

/-- Takes the white space away that parts end in. -/
def trimLast : List Node → List Node
  | [] => []
  | [.text cs] => [.text (Text.trimEnd cs)]
  | n :: ns => n :: trimLast ns

/-- What the tags around a part of a template decide for it. -/
structure Surroundings where
  /-- The part stands in a loop, where no block may stand. -/
  inLoop : Bool
  /-- White space stays where it is. -/
  keepsSpace : Bool
deriving DecidableEq, Repr

namespace Surroundings

/-- A text without the white space that the tags before and after it take away. -/
def trimmed (s : Surroundings) (after before : Bool) (cs : List Char) : List Char :=
  if s.keepsSpace then cs
  else
    let cs := if after then Text.trimStart cs else cs
    if before then Text.trimEnd cs else cs

/-- Parts without the white space that the tag behind them takes away. -/
def closed (s : Surroundings) (trim : Trim) (body : List Node) : List Node :=
  if trim.before && !s.keepsSpace then trimLast body else body

def looping (s : Surroundings) : Surroundings := { s with inLoop := true }

/-- In what is written for an empty loop. -/
def emptyLoop : Surroundings := ⟨true, true⟩

end Surroundings

/-- Whether a tag closes something or goes on with it. -/
def Tag.closes : Tag → Bool
  | .elseIf _ | .otherwise | .closeIf | .closeFor | .closeBlock | .closeRaw => true
  | .output _ | .comment | .assign .. | .inclusion .. | .extending _ | .openIf _ | .openFor ..
  | .openBlock _ | .openRaw => false

/-- Whether the next tag opens something or stands alone and takes white space away before it. -/
def trimsBefore : List Piece → Bool
  | .tag trim tag _ :: _ => trim.before && !tag.closes
  | _ => false

/-- What reading a part of the tree answers: the part and the pieces after it, or the number of
characters from the place on where a tag does not fit. -/
abbrev Nesting (α : Type) := Except Nat (α × List Piece)

/-- The number of characters from the first piece on. -/
def charsLeft : List Piece → Nat
  | .tag _ _ left :: _ => left
  | _ => 0

/-- The parts of a condition: its cases, what follows `else`, and whether the tag that closes it
takes white space away after it. -/
structure Branches where
  cases : List (Expr × List Node)
  otherwise : List Node
  after : Bool

mutual

/-- The nodes up to the first tag that closes or continues something. `after` says whether the tag
in front takes white space away. -/
def nodes : Nat → Surroundings → Bool → List Piece → Nesting (List Node)
  | 0, _, _, ps => .error (charsLeft ps)
  | _ + 1, _, _, [] => .ok ([], [])
  | fuel + 1, s, after, p :: ps =>
    let then_ (node : Node) (after : Bool) (rest : List Piece) : Nesting (List Node) :=
      (nodes fuel s after rest).map fun (ns, rest) => (node :: ns, rest)
    match p with
    | .text cs => then_ (.text (s.trimmed after (trimsBefore ps) cs)) false ps
    | .tag trim tag left =>
      match tag with
      | .output e => then_ (.output e) trim.after ps
      | .assign n e => then_ (.assign n e) trim.after ps
      | .inclusion names optional => then_ (.inclusion names optional) trim.after ps
      | .comment => then_ (.raw []) trim.after ps
      | .openRaw =>
        match ps with
        | .text cs :: .tag closing .closeRaw _ :: rest =>
          then_ (.raw (s.trimmed trim.after closing.before cs)) closing.after rest
        | _ => .error left
      | .openBlock n =>
        if s.inLoop then .error left
        else
          match nodes fuel s trim.after ps with
          | .ok (body, .tag closing .closeBlock _ :: rest) =>
            then_ (.block n (s.closed closing body)) closing.after rest
          | .ok (_, rest) => .error (charsLeft rest)
          | .error left => .error left
      | .openIf e =>
        match branches fuel s trim.after e ps with
        | .ok (b, rest) => then_ (.branch b.cases b.otherwise) b.after rest
        | .error left => .error left
      | .openFor key value container =>
        match nodes fuel s.looping trim.after ps with
        | .error left => .error left
        | .ok (body, rest) =>
          match loopEnd fuel [] rest with
          | .ok ((otherwise, closing), rest) =>
            then_ (.loop key value container (s.closed closing body) otherwise) closing.after rest
          | .error left => .error left
      | .extending _ => .error left
      | .elseIf _ | .otherwise | .closeIf | .closeFor | .closeBlock | .closeRaw => .ok ([], p :: ps)

/-- The parts of a condition from a case on. -/
def branches : Nat → Surroundings → Bool → Expr → List Piece → Nesting Branches
  | 0, _, _, _, ps => .error (charsLeft ps)
  | fuel + 1, s, after, e, ps =>
    match nodes fuel s after ps with
    | .error left => .error left
    | .ok (body, .tag closing .closeIf _ :: rest) =>
      .ok (⟨[(e, s.closed closing body)], [], closing.after⟩, rest)
    | .ok (body, .tag next (.elseIf e') _ :: rest) =>
      (branches fuel s next.after e' rest).map fun (b, rest) =>
        ({ b with cases := (e, s.closed next body) :: b.cases }, rest)
    | .ok (body, .tag next .otherwise _ :: rest) =>
      match nodes fuel s next.after rest with
      | .ok (otherwise, .tag closing .closeIf _ :: rest) =>
        .ok (⟨[(e, s.closed next body)], s.closed closing otherwise, closing.after⟩, rest)
      | .ok (_, rest) => .error (charsLeft rest)
      | .error left => .error left
    | .ok (_, rest) => .error (charsLeft rest)

/-- What follows the body of a loop: the last part for an empty loop, where `otherwise` is the one
before, and the tag that closes the loop. -/
def loopEnd : Nat → List Node → List Piece → Nesting (List Node × Trim)
  | 0, _, ps => .error (charsLeft ps)
  | _ + 1, otherwise, .tag closing .closeFor _ :: rest => .ok ((otherwise, closing), rest)
  | fuel + 1, _, .tag _ .otherwise _ :: rest =>
    match nodes fuel .emptyLoop false rest with
    | .ok (otherwise, rest) => loopEnd fuel otherwise rest
    | .error left => .error left
  | _ + 1, _, ps => .error (charsLeft ps)

end

/-- The pieces of a template without the comments that it starts with. -/
def afterComments : List Piece → List Piece
  | .tag _ .comment _ :: ps => afterComments ps
  | ps => ps

/-- The parent that a template extends, and the pieces after that. Only white space may stand in
front. -/
def splitParent : List Piece → Option String × List Piece
  | .tag _ (.extending parent) _ :: ps => (some parent, ps)
  | .text cs :: .tag trim (.extending parent) left :: ps =>
    if cs.all isSpace then (some parent, ps)
    else (none, .text cs :: .tag trim (.extending parent) left :: ps)
  | ps => (none, ps)

/-- A template that was read: the parent that it extends, and its parts. -/
structure Parsed where
  parent : Option String
  nodes : List Node

/-- Reads a template, or answers the number of characters from the place on where that fails. -/
def Parsed.ofChars (cs : List Char) : Except Nat Parsed :=
  match piecesOf cs with
  | .error rest => .error rest.length
  | .ok ps =>
    let (parent, ps) := splitParent (afterComments ps)
    match Template.nodes (3 * ps.length + 3) ⟨false, false⟩ false ps with
    | .error left => .error left
    | .ok (ns, []) => .ok ⟨parent, ns⟩
    | .ok (_, rest) => .error (charsLeft rest)

mutual

/-- The blocks in a part that are found by their names: those not inside of conditions and loops. -/
def Node.blocks : Node → List (String × List Node)
  | .block name body => (name, body) :: Node.blocksOf body
  | _ => []

/-- The blocks in several parts that are found by their names. -/
def Node.blocksOf : List Node → List (String × List Node)
  | [] => []
  | n :: ns => n.blocks ++ Node.blocksOf ns

end

mutual

/-- The whole numbers that are written in a part. -/
def Node.integers : Node → List Int
  | .output e | .assign _ e => e.integers
  | .block _ body => Node.integersOf body
  | .branch cases otherwise => Node.integersOfCases cases ++ Node.integersOf otherwise
  | .loop _ _ container body otherwise =>
    container.integers ++ Node.integersOf body ++ Node.integersOf otherwise
  | .text _ | .raw _ | .inclusion .. => []

def Node.integersOf : List Node → List Int
  | [] => []
  | n :: ns => n.integers ++ Node.integersOf ns

def Node.integersOfCases : List (Expr × List Node) → List Int
  | [] => []
  | (e, body) :: cases => e.integers ++ Node.integersOf body ++ Node.integersOfCases cases

end

/-- The first name that comes a second time. -/
def firstRepeated? : List String → List String → Option String
  | _, [] => none
  | seen, n :: ns => if seen.contains n then some n else firstRepeated? (n :: seen) ns

end TemplateServer.Template
