import TemplateServer.Template.Grammar

/-!
# Pieces of a template

A template is cut into pieces: the text between the tags, and the tags themselves. A hyphen inside
of a tag, at its beginning or its end, asks to take away the white space of the text on that side.
-/

namespace TemplateServer.Template

/-- What a tag says. -/
inductive Tag
  | output (e : Expr)
  | comment
  | assign (name : String) (e : Expr)
  | inclusion (names : List String) (optional : Bool)
  | extending (parent : String)
  | openIf (condition : Expr)
  | elseIf (condition : Expr)
  | otherwise
  | closeIf
  | openFor (key : Option String) (value : String) (container : Expr)
  | closeFor
  | openBlock (name : String)
  | closeBlock
  | openRaw
  | closeRaw

/-- On which sides a tag asks to take white space away. -/
structure Trim where
  before : Bool
  after : Bool
deriving DecidableEq, Repr

/-- A piece of a template. A tag is known by the number of characters from its beginning on. -/
inductive Piece
  | text (cs : List Char)
  | tag (trim : Trim) (t : Tag) (left : Nat)

/-- What follows the beginning of a tag, and whether a hyphen stands there. -/
def opening? (brackets : String) (cs : List Char) : Reading Bool :=
  match after? (brackets ++ "-") cs, after? brackets cs with
  | some rest, _ => some (true, rest)
  | none, some rest => some (false, rest)
  | none, none => none

/-- What follows the end of a tag, and whether a hyphen stands there. -/
def closing? (brackets : String) (cs : List Char) : Reading Bool :=
  match symbol? ("-" ++ brackets) cs, symbol? brackets cs with
  | some rest, _ => some (true, rest)
  | none, some rest => some (false, rest)
  | none, none => none

/-- What follows white space, of which there has to be some. -/
def spaced? (cs : List Char) : Option (List Char) :=
  match cs with
  | c :: rest => if isSpace c then some (skipSpace rest) else none
  | [] => none

/-- A keyword with white space behind it. -/
def keyword? (word : String) (cs : List Char) : Option (List Char) := (after? word cs).bind spaced?

/-- The names of templates between brackets, from after the bracket on. -/
def nameList : Nat → List Char → List String × List Char
  | 0, cs => ([], cs)
  | fuel + 1, cs =>
    match quotedText? (skipSpace cs) with
    | none => ([], cs)
    | some ((_, s), rest) =>
      match symbol? "," rest with
      | none => ([s], rest)
      | some rest =>
        let (more, rest) := nameList fuel rest
        (s :: more, rest)

/-- The names of the templates that are tried one after the other. -/
def templateNames? (cs : List Char) : Reading (List String) :=
  match quotedText? cs, after? "[" cs with
  | some ((_, s), rest), _ => some ([s], rest)
  | none, some rest =>
    let (names, rest) := nameList rest.length rest
    (symbol? "]" rest).map fun rest => (names, rest)
  | none, none => none

/-- What follows the keyword of an inclusion. -/
def inclusion? (cs : List Char) : Reading Tag :=
  (templateNames? cs).map fun (names, rest) =>
    match (spaced? rest).bind (after? "ignore missing") with
    | some rest => (.inclusion names true, rest)
    | none => (.inclusion names false, rest)

/-- What follows the keyword of a loop. -/
def loopHead? (cs : List Char) : Option (Tag × List Char) := do
  let (first, rest) ← name? cs
  let second? : Reading String := (after? "," rest).bind fun rest => name? (skipSpace rest)
  let (key, value, rest) :=
    match second? with
    | some (second, rest) => (some first, second, rest)
    | none => (none, first, rest)
  let inside ← (spaced? rest).bind (keyword? "in")
  let (container, rest) ← container? inside
  some (.openFor key value container, rest)

/-- What follows the keyword of an assignment. -/
def assignment? (cs : List Char) : Option (Tag × List Char) := do
  let (name, rest) ← name? cs
  let rest ← symbol? "=" rest
  let (e, rest) ← expression? rest
  some (.assign name e, rest)

/-- A keyword that stands alone in its tag. -/
def lone? (word : String) (tag : Tag) (cs : List Char) : Reading Tag :=
  (after? word cs).map fun rest => (tag, rest)

/-- A tag of one of the kinds that start with a keyword, without its brackets. -/
def keywordTag? (cs : List Char) : Reading Tag :=
  let readers : List (List Char → Reading Tag) := [
    fun cs => (keyword? "include" cs).bind inclusion?,
    fun cs => (keyword? "extends" cs).bind fun cs =>
      (quotedText? cs).map fun ((_, s), rest) => (.extending s, rest),
    fun cs => (keyword? "block" cs).bind fun cs =>
      (name? cs).map fun (n, rest) => (.openBlock n, rest),
    fun cs => (after? "endblock" cs).map fun rest =>
      match name? (skipSpace rest) with
      | some (_, rest) => (.closeBlock, rest)
      | none => (.closeBlock, rest),
    fun cs => (keyword? "if" cs).bind fun cs =>
      (condition? cs).map fun (e, rest) => (.openIf e, rest),
    fun cs => (keyword? "elif" cs).bind fun cs =>
      (condition? cs).map fun (e, rest) => (.elseIf e, rest),
    lone? "else" .otherwise,
    lone? "endif" .closeIf,
    fun cs => (keyword? "for" cs).bind loopHead?,
    lone? "endfor" .closeFor,
    fun cs => (keyword? "set" cs).bind assignment?,
    lone? "raw" .openRaw,
    lone? "endraw" .closeRaw]
  readers.findSome? fun reader =>
    (reader cs).bind fun (tag, rest) =>
      if (closing? "%\x7d" rest).isSome then some (tag, rest) else none

/-- A tag with its brackets. -/
def bracketedTag? (cs : List Char) : Option ((Trim × Tag) × List Char) := do
  let (before, rest) ← opening? "\x7b%" cs
  let (tag, rest) ← keywordTag? (skipSpace rest)
  let (after, rest) ← closing? "%\x7d" rest
  some ((⟨before, after⟩, tag), rest)

/-- An expression with its brackets. -/
def outputTag? (cs : List Char) : Option ((Trim × Tag) × List Char) := do
  let (before, rest) ← opening? "\x7b\x7b" cs
  let (e, rest) ← expression? rest
  let (after, rest) ← closing? "\x7d\x7d" rest
  some ((⟨before, after⟩, .output e), rest)

/-- The end of a comment and what follows it: the first place where one ends. -/
def commentEnd? : List Char → Reading Bool
  | [] => none
  | c :: cs =>
    match after? "-#\x7d" (c :: cs), after? "#\x7d" (c :: cs) with
    | some rest, _ => some (true, rest)
    | none, some rest => some (false, rest)
    | none, none => commentEnd? cs

/-- A comment with its brackets. It holds at least one character. -/
def commentTag? (cs : List Char) : Option ((Trim × Tag) × List Char) := do
  let (before, inside) ← opening? "\x7b#" cs
  let (after, rest) ← commentEnd? inside
  if (after? "-#\x7d" inside).isSome || (after? "#\x7d" inside).isSome then none
  else some ((⟨before, after⟩, .comment), rest)

/-- Whether a tag begins at a place. -/
def beginsTag (cs : List Char) : Bool :=
  match cs with
  | '\x7b' :: c :: _ => c == '\x7b' || c == '%' || c == '#'
  | _ => false

/-- Splits a text before the first place with a property. -/
def splitBefore (stops : List Char → Bool) : List Char → List Char × List Char
  | [] => ([], [])
  | c :: cs =>
    if stops (c :: cs) then ([], c :: cs)
    else
      let (front, rest) := splitBefore stops cs
      (c :: front, rest)

/-- Whether the tag that ends a raw text stands at a place. -/
def endsRaw (cs : List Char) : Bool :=
  match bracketedTag? cs with
  | some ((_, .closeRaw), _) => true
  | _ => false

/-- The pieces of a template, in at most `fuel` steps, or the characters that stopped the
reading. -/
def pieces : Nat → List Char → Except (List Char) (List Piece)
  | 0, cs => .error cs
  | _ + 1, [] => .ok []
  | fuel + 1, cs =>
    if beginsTag cs then
      let tag? :=
        orElse? (commentTag? cs) fun _ => orElse? (outputTag? cs) fun _ => bracketedTag? cs
      match tag? with
      | none => .error cs
      | some ((trim, tag), rest) =>
        let piece := Piece.tag trim tag cs.length
        match tag with
        | .openRaw =>
          let (raw, rest) := splitBefore endsRaw rest
          (pieces fuel rest).map fun ps => piece :: .text raw :: ps
        | _ => (pieces fuel rest).map (piece :: ·)
    else
      let (text, rest) := splitBefore beginsTag cs
      (pieces fuel rest).map (.text text :: ·)

def piecesOf (cs : List Char) : Except (List Char) (List Piece) := pieces (cs.length + 1) cs

end TemplateServer.Template
