import TemplateServer.Text.Replace
import TemplateServer.Text.Utf8

/-!
# Paths

A path to a value is a text: the name of a variable and the way on from its value, in points and
brackets. Brackets are read in two steps. What stands in them is replaced by a key after a point,
which `withPoints` and `innerPaths` prepare; and a text with points alone is cut into keys by
`keysOf`, where quotes keep a key with points together.
-/

namespace TemplateServer.Template

/-- A path to a value, as it is written. -/
structure Path where
  text : String
deriving DecidableEq, Repr

namespace Path

/-- The octets of a text from one number up to another one, if they are whole characters. -/
def slice? (cs : List Char) (first next : Nat) : Option (List Char) :=
  Utf8.decode? (((Utf8.encode cs).take next).drop first)

/-- Where a reader of keys stands: in which quotes, and whether a backslash is in front. -/
structure Reader where
  inSingle : Bool
  inDouble : Bool
  escaped : Bool
deriving DecidableEq, Repr

namespace Reader

/-- What a reader finds on its way along a text. -/
inductive Find
  /-- No further key. -/
  | nothing
  /-- A key, and how to read the text after it. -/
  | key (name : List Char) (reader : Reader) (rest : List Char)
  /-- A key that ends inside of a character. -/
  | broken

/-- The key between two numbers of octets, and the text after the octet that ends it. -/
def found (r : Reader) (whole : List Char) (first next : Nat) : Find :=
  match slice? whole first next, slice? whole (next + 1) (Utf8.encode whole).length with
  | some name, some rest => .key name r rest
  | _, _ => .broken

/--
The first key in a text: it starts after `first` octets, and `read` characters of it are read. A
quote or a point at its beginning is passed over, and one after it ends the key. Its length is
counted in characters but taken in octets, so that a key goes on for as long as it has characters
beyond ASCII.
-/
def next (whole : List Char) (first read : Nat) (r : Reader) : List Char → Find
  | [] => .nothing
  | c :: cs =>
    let quote := !r.escaped && (c == '"' || c == '\x27')
    let point := c == '.' && !r.inSingle && !r.inDouble && !r.escaped
    let r' : Reader :=
      if quote then
        { r with inDouble := r.inDouble != (c == '"'), inSingle := r.inSingle != (c == '\x27') }
      else r
    if quote || point then
      if first == read then next whole (first + 1) (read + 1) r' cs else found r' whole first read
    else if c == '\x5c' then next whole first (read + 1) { r with escaped := true } cs
    else if read + 1 == (Utf8.encode whole).length then
      found { r with escaped := false } whole first (read + 1)
    else next whole first (read + 1) { r with escaped := false } cs

/-- The keys in a text, at most `fuel` of them. -/
def keys : Nat → Reader → List Char → Option (List (List Char))
  | 0, _, _ => some []
  | fuel + 1, r, cs =>
    match next cs 0 0 r cs with
    | .nothing => some []
    | .key name r rest => (keys fuel r rest).map (name :: ·)
    | .broken => none

end Reader

/-- A key as it stands in a text with points, where a tilde and a digit stand for a slash or for a
tilde. -/
def keyOf (written : List Char) : String :=
  String.ofList (Text.replace ['~', '0'] ['~'] (Text.replace ['~', '1'] ['/'] written))

/-- The keys in a text with points. There are none if a key ends inside of a character. -/
def keysOf (cs : List Char) : Option (List String) :=
  ((Reader.keys cs.length ⟨false, false, false⟩ cs).map fun ks => ks.map keyOf)

/-- The text up to the bracket that closes, where `depth` more are open, and what follows it. -/
def bracketed : Nat → List Char → List Char × List Char
  | _, [] => ([], [])
  | depth, c :: cs =>
    if c == ']' && depth == 0 then ([], cs)
    else
      let depth := if c == ']' then depth - 1 else if c == '[' then depth + 1 else depth
      let (inside, rest) := bracketed depth cs
      (c :: inside, rest)

/-- Whether a text is the number of an element. -/
def isIndex (cs : List Char) : Bool :=
  !cs.isEmpty && cs.all Char.isDigit
    && cs.foldl (fun n d => n * 10 + (d.toNat - 0x30)) 0 ≤ 18446744073709551615

/-- The texts in brackets that are paths themselves: those that start with no quote and are no
number. At most `fuel` characters are read. -/
def innerPaths : Nat → List Char → List (List Char)
  | 0, _ => []
  | fuel + 1, '[' :: c :: cs =>
    if c == '"' || c == '\x27' then innerPaths fuel cs
    else
      let (inside, rest) := bracketed 0 cs
      if isIndex (c :: inside) then innerPaths fuel rest else (c :: inside) :: innerPaths fuel rest
  | fuel + 1, _ :: cs => innerPaths fuel cs
  | _ + 1, [] => []

/-- A path with points and quotes in place of its brackets. A slash is written as a tilde and a
digit. -/
def withPoints (cs : List Char) : List Char :=
  let replacements : List (List Char × List Char) := [
    (['/'], ['~', '1']), (['[', '\x27'], ['.', '"']), (['[', '"'], ['.', '"']), (['['], ['.']),
    (['\x27', ']'], ['"']), (['"', ']'], ['"']), ([']'], [])]
  replacements.foldl (fun cs (found, instead) => Text.replace found instead cs) cs

end Path

end TemplateServer.Template
