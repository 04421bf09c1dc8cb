/-!
# Socket addresses

The address that a server listens on: an IP address of version 4 or 6 and a port. Version 6 is
written in brackets, its groups between colons, with two colons in place of a run of zeros, perhaps
with an address of version 4 at its end, and perhaps with a scope. A port has to be there. Names of
hosts are no addresses.
-/

namespace TemplateServer.Http

/-- An IP address. -/
inductive IpAddress
  /-- Four octets. -/
  | v4 (octets : List Nat)
  /-- Eight groups of 16 bits, and the number of a scope. -/
  | v6 (groups : List Nat) (scope : Nat)
deriving DecidableEq, Repr

/-- Where a server listens. -/
structure SocketAddress where
  ip : IpAddress
  port : Nat
deriving DecidableEq, Repr

namespace SocketAddress

/-- What follows a character. -/
def after? (c : Char) : List Char → Option (List Char)
  | d :: cs => if d == c then some cs else none
  | [] => none

def digitOf (c : Char) : Nat :=
  if c.isDigit then c.toNat - 0x30
  else if c.isUpper then c.toNat - 0x41 + 10
  else c.toNat - 0x61 + 10

/-- Whether a character is a digit of version 6. -/
def isGroupDigit (c : Char) : Bool :=
  c.isDigit || ('a' ≤ c && c ≤ 'f') || ('A' ≤ c && c ≤ 'F')

/-- The number that digits write. -/
def valueOf (base : Nat) (ds : List Char) : Nat := ds.foldl (fun n d => n * base + digitOf d) 0

/-- A decimal number up to a bound. Zeros may stand in front. -/
def number? (bound : Nat) (cs : List Char) : Option (Nat × List Char) :=
  let ds := cs.takeWhile Char.isDigit
  if ds.isEmpty || bound < valueOf 10 ds then none
  else some (valueOf 10 ds, cs.dropWhile Char.isDigit)

/-- An octet. No zero may stand in front. -/
def octet? (cs : List Char) : Option (Nat × List Char) :=
  let ds := cs.takeWhile Char.isDigit
  if 3 < ds.length || (ds.head? == some '0' && ds.length != 1) then none else number? 255 cs

/-- A group of up to four hexadecimal digits. -/
def group? (cs : List Char) : Option (Nat × List Char) :=
  let ds := cs.takeWhile isGroupDigit
  if ds.isEmpty || 4 < ds.length then none else some (valueOf 16 ds, cs.dropWhile isGroupDigit)

/-- Four octets between points. -/
def octets? (cs : List Char) : Option (List Nat × List Char) := do
  let (a, cs) ← octet? cs
  let (b, cs) ← octet? (← after? '.' cs)
  let (c, cs) ← octet? (← after? '.' cs)
  let (d, cs) ← octet? (← after? '.' cs)
  some ([a, b, c, d], cs)

/-- The two groups that four octets stand for. -/
def groupsOfOctets : List Nat → List Nat
  | a :: b :: rest => (a * 256 + b) :: groupsOfOctets rest
  | _ => []

/-- As many groups as there are, up to a limit, and whether octets stand at their end. A colon
stands in front of each group, unless it is the first one. -/
def groups (isFirst : Bool) : Nat → List Char → List Nat × Bool × List Char
  | 0, cs => ([], false, cs)
  | limit + 1, cs =>
    let start? := if isFirst then some cs else after? ':' cs
    match if limit == 0 then none else start?.bind octets? with
    | some (octets, rest) => (groupsOfOctets octets, true, rest)
    | none =>
      match start?.bind group? with
      | some (g, rest) =>
        let (gs, hasOctets, rest) := groups false limit rest
        (g :: gs, hasOctets, rest)
      | none => ([], false, cs)

/-- Eight groups, some of which may be left out in one place. -/
def allGroups? (cs : List Char) : Option (List Nat × List Char) :=
  let (front, hasOctets, rest) := groups true 8 cs
  if front.length == 8 then some (front, rest)
  else if hasOctets then none
  else do
    let rest ← after? ':' (← after? ':' rest)
    let (back, _, rest) := groups true (7 - front.length) rest
    some (front ++ List.replicate (8 - front.length - back.length) 0 ++ back, rest)

/-- An address of version 4 with a port. -/
def readV4? (cs : List Char) : Option (SocketAddress × List Char) := do
  let (octets, cs) ← octets? cs
  let (port, cs) ← number? 65535 (← after? ':' cs)
  some (⟨.v4 octets, port⟩, cs)

/-- An address of version 6 with a port. -/
def readV6? (cs : List Char) : Option (SocketAddress × List Char) := do
  let (groups, cs) ← allGroups? (← after? '[' cs)
  let (scope, cs) := ((after? '%' cs).bind (number? 4294967295)).getD (0, cs)
  let (port, cs) ← number? 65535 (← after? ':' (← after? ']' cs))
  some (⟨.v6 groups scope, port⟩, cs)

def parse? (text : String) : Option SocketAddress :=
  match (readV4? text.toList).or (readV6? text.toList) with
  | some (address, []) => some address
  | _ => none

end SocketAddress

end TemplateServer.Http
