import TemplateServer.Text.Pieces
import TemplateServer.Text.Utf8

/-!
# Request targets

The target of an HTTP request is mostly a path and a query, and sometimes a whole URI, an authority
alone, or a star. `Target.parse?` tells these apart as RFC 9112 does, drops a fragment, and refuses
what holds a character that no target may hold. Characters beyond ASCII are let through, because
clients send them.
-/

namespace TemplateServer.Http

/-- What a request is sent to. -/
structure Target where
  scheme : Option String
  authority : Option String
  path : String
  query : Option String
deriving DecidableEq, Repr

namespace Target

/-- The most octets that a target may take. -/
def maxLength : Nat := 65534

/-- The most characters that a scheme may take. -/
def maxSchemeLength : Nat := 64

/-- Characters that stand for themselves in a path. -/
def isPathChar (c : Char) : Bool :=
  let n := c.toNat
  n == 0x21 || n == 0x22 || (0x24 ≤ n && n ≤ 0x3B) || n == 0x3D || (0x40 ≤ n && n ≤ 0x5F) ||
    (0x61 ≤ n && n ≤ 0x7E) || 0x80 ≤ n

/-- Characters that stand for themselves in a query. -/
def isQueryChar (c : Char) : Bool :=
  let n := c.toNat
  n == 0x21 || (0x24 ≤ n && n ≤ 0x3B) || n == 0x3D || (0x3F ≤ n && n ≤ 0x7E) || 0x80 ≤ n

/-- Characters that may stand in an authority. -/
def isAuthorityChar (c : Char) : Bool :=
  c.isAlphanum || "!$&'()*+,-.:;=@[]_~%".toList.contains c

/-- Characters that may stand in a scheme. -/
def isSchemeChar (c : Char) : Bool := c.isAlphanum || "+-.~".toList.contains c

/-- A path with an optional query. The first question mark ends the path, and a number sign ends
everything. -/
def pathAndQuery? (cs : List Char) : Option (List Char × Option (List Char)) :=
  let (path, query) := Text.cut (· == '?') (Text.cut (· == '#') cs).1
  if path.all isPathChar && query.all (·.all isQueryChar) then some (path, query) else none

/-- What follows the last place where a character with a property stands; everything, if there is
none. -/
def afterLast (p : Char → Bool) (cs : List Char) : List Char :=
  (cs.reverse.takeWhile fun c => !p c).reverse

/-- Brackets are there not at all, or once around something. -/
def bracketsFit (cs : List Char) : Bool :=
  let brackets := cs.filter fun c => c == '[' || c == ']'
  brackets == [] || brackets == ['[', ']']

/-- The most colons in any part of an authority. -/
def maxColons : Nat := 8

/--
Whether an authority is well formed: brackets fit, and what follows the last bracket or the user has
at most one colon and no percent sign. Between the user and a bracket no percent sign stands either.
-/
def isAuthority (cs : List Char) : Bool :=
  let host := afterLast (fun c => c == ']' || c == '@') cs
  let beforeBracket := afterLast (· == '@') (Text.cut (· == '[') cs).1
  cs.all isAuthorityChar && bracketsFit cs && cs.getLast? != some '@'
    && (Text.pieces (fun c => c == ']' || c == '@') cs).all (fun p => p.count ':' ≤ maxColons)
    && host.count ':' ≤ 1 && !host.contains '%'
    && (!cs.contains '[' || !beforeBracket.contains '%')

/-- The scheme that a URI starts with, and what follows `://`. -/
def splitScheme? (cs : List Char) : Option (List Char × List Char) :=
  let scheme := cs.takeWhile isSchemeChar
  match cs.dropWhile isSchemeChar with
  | ':' :: '/' :: '/' :: rest => some (scheme, rest)
  | _ => none

/-- The two schemes of the web are written in lower case. -/
def schemeText (scheme : List Char) : String :=
  let lower := (String.ofList scheme).map Char.toLower
  if lower == "http" || lower == "https" then lower else String.ofList scheme

/-- A URI with a scheme. Its path is a slash if it is empty. -/
def absolute? (scheme rest : List Char) : Option Target := do
  let isPart := fun c => c != '/' && c != '?' && c != '#'
  let authority := rest.takeWhile isPart
  let (path, query) ← pathAndQuery? (rest.dropWhile isPart)
  if maxSchemeLength < scheme.length || authority.isEmpty || !isAuthority authority then none
  else
    some
      { scheme := some (schemeText scheme)
        authority := some (String.ofList authority)
        path := if path.isEmpty then "/" else String.ofList path
        query := query.map String.ofList }

def parse? (target : String) : Option Target :=
  if maxLength < Utf8.length target then none
  else
    match target.toList with
    | [] => none
    | ['*'] => some ⟨none, none, "*", none⟩
    | '/' :: rest => do
      let (path, query) ← pathAndQuery? ('/' :: rest)
      some ⟨none, none, String.ofList path, query.map String.ofList⟩
    | cs =>
      match splitScheme? cs with
      | some (scheme, rest) => absolute? scheme rest
      | none => if isAuthority cs then some ⟨none, some target, "", none⟩ else none

/-- The target as text. -/
def text (t : Target) : String :=
  (t.scheme.map (· ++ "://")).getD "" ++ t.authority.getD "" ++ t.path
    ++ (t.query.map ("?" ++ ·)).getD ""

end Target

end TemplateServer.Http
