import TemplateServer.Template.Value
import TemplateServer.Text.Blank
import TemplateServer.Text.Case
import TemplateServer.Text.Replace
import TemplateServer.Text.Word

/-!
# Filters

A filter makes a value of a value and of named arguments, and says why it cannot.
-/

namespace TemplateServer.Template

abbrev Args := List (String × Value)

namespace Filter

/-- The text that a filter is applied to. -/
def textOf (filter : String) : Value → Except String (List Char)
  | .text s => .ok s.toList
  | v => .error (s!"Filter \x60{filter}\x60 was called on an incorrect value: "
      ++ s!"got \x60{v.shown}\x60 but expected a String")

/-- The list that a filter is applied to. -/
def listOf (filter : String) : Value → Except String (List Value)
  | .list items => .ok items
  | v => .error (s!"Filter \x60{filter}\x60 was called on an incorrect value: "
      ++ s!"got \x60{v.shown}\x60 but expected a Vec<Value>")

/-- An argument of the wrong type. -/
def badArgument (filter arg expected : String) (v : Value) : String :=
  s!"Filter \x60{filter}\x60 received an incorrect type for arg \x60{arg}\x60: "
    ++ s!"got \x60{v.shown}\x60 but expected a {expected}"

def textArg? (filter label arg : String) (args : Args) : Except String (Option (List Char)) :=
  match args.lookup arg with
  | none => .ok none
  | some (.text s) => .ok (some s.toList)
  | some v => .error (badArgument filter label "String" v)

/-- A text argument that has to be there. -/
def textArg (filter arg : String) (args : Args) : Except String (List Char) := do
  match ← textArg? filter arg arg args with
  | some cs => .ok cs
  | none => .error s!"Filter \x60{filter}\x60 expected an arg called \x60{arg}\x60"

def ofChars (cs : List Char) : Value := .text (String.ofList cs)

/-- How a character is written where markup is read. -/
def escapedChar (c : Char) : List Char :=
  match c with
  | '&' => "&amp;".toList
  | '<' => "&lt;".toList
  | '>' => "&gt;".toList
  | '"' => "&quot;".toList
  | '\x27' => "&#x27;".toList
  | '/' => "&#x2F;".toList
  | _ => [c]

/-- A text that stands for itself where markup is read. -/
def escaped (cs : List Char) : List Char := cs.flatMap escapedChar

/-- Whether a word ends between two characters, either of which may be missing. -/
def isBoundary (before after : Option Char) : Bool :=
  before.any Text.isWordChar != after.any Text.isWordChar

/-- Characters of words with apostrophes. -/
def isTitleChar (c : Char) : Bool := Text.isWordChar c || c == '\x27'

/-- The length of the longest beginning of a run that ends at the end of a word: the run is
`front` characters long so far, `before` is its last character. -/
def lastBoundary (front : Nat) (before : Char) : List Char → Option Nat
  | [] => if isBoundary (some before) none then some front else none
  | c :: cs =>
    let here := if isBoundary (some before) (some c) then some front else none
    if isTitleChar c then (lastBoundary (front + 1) c cs).or here else here

/-- Every word with its first character in upper case and the others in lower case. `before` is the
character in front, and the first `skip` characters are written already. -/
def titleFrom (before : Option Char) : Nat → List Char → List Char
  | _, [] => []
  | skip + 1, c :: cs => titleFrom (some c) skip cs
  | 0, c :: cs =>
    let found :=
      if isTitleChar c && isBoundary before (some c) then lastBoundary 1 c cs else none
    match found with
    | some n => Text.upper [c] ++ Text.lower (cs.take (n - 1)) ++ titleFrom (some c) (n - 1) cs
    | none => c :: titleFrom (some c) 0 cs

def title (cs : List Char) : List Char := titleFrom none 0 cs

/-- A text with its first character in upper case and the others in lower case. -/
def capitalize : List Char → List Char
  | [] => []
  | c :: cs => Text.upper [c] ++ Text.lower cs

/-- The value of a digit in a base up to 36. -/
def digitValue? (base : Nat) (c : Char) : Option Nat :=
  let n := c.toNat
  let value :=
    if c.isDigit then n - 0x30
    else if c.isLower then n - 0x61 + 10
    else if c.isUpper then n - 0x41 + 10
    else base
  if value < base then some value else none

def digits? (base : Nat) (cs : List Char) : Option Nat :=
  if cs.isEmpty then none
  else cs.foldlM (fun n c => (digitValue? base c).map (n * base + ·)) 0

/-- Whether a number fits into 64 bits. -/
def fits (n : Int) : Bool := -9223372036854775808 ≤ n && n ≤ 9223372036854775807

/-- Takes a sign off. -/
def splitSign : List Char → Bool × List Char
  | '-' :: cs => (true, cs)
  | '+' :: cs => (false, cs)
  | cs => (false, cs)

/-- A whole number of 64 bits, with an optional sign. -/
def signed? (base : Nat) (cs : List Char) : Option Int := do
  let (negative, ds) := splitSign cs
  let n ← digits? base ds
  let n : Int := if negative then -(n : Int) else n
  if fits n then some n else none

/-- The whole part of a number with a point, and an exponent if it has one. -/
def pointed? (cs : List Char) : Option Int := do
  let (negative, rest) := splitSign cs
  let whole := rest.takeWhile Char.isDigit
  let (places, rest) :=
    match rest.dropWhile Char.isDigit with
    | '.' :: rest => (rest.takeWhile Char.isDigit, rest.dropWhile Char.isDigit)
    | rest => ([], rest)
  let m ← digits? 10 (whole ++ places)
  let exponent : Int ←
    match rest with
    | [] => some 0
    | 'e' :: ds | 'E' :: ds =>
      let (negative, ds) := splitSign ds
      (digits? 10 ds).map fun n => if negative then -(min n 5000 : Nat) else (min n 5000 : Nat)
    | _ => none
  let e := exponent - places.length
  let x := if 0 ≤ e then Float.ofScientific (m * Nat.pow 10 e.toNat) false 0
    else Float.ofScientific m true (-e).toNat
  some (if negative then -x else x).toInt64.toInt

/-- Takes the mark of a base off, as often as it stands in front. -/
def stripMark (mark : List Char) : Nat → List Char → List Char
  | 0, cs => cs
  | fuel + 1, cs =>
    if mark.isPrefixOf cs then stripMark mark fuel (cs.drop mark.length) else cs

/-- The whole number that a value writes or is. -/
def toInt (args : Args) (v : Value) : Except String Value := do
  let fallback : Int ←
    match args.lookup "default" with
    | none => pure 0
    | some (.int n) => pure n
    | some v => .error (badArgument "int" "default" "i64" v)
  let base : Nat ←
    match args.lookup "base" with
    | none => pure 10
    | some (.int n) =>
      if 0 ≤ n && n ≤ 4294967295 then pure n.toNat
      else .error (badArgument "int" "base" "u32" (.int n))
    | some v => .error (badArgument "int" "base" "u32" v)
  match v with
  | .text s =>
    let cs := Text.trim s.toList
    let mark : List Char :=
      match base with
      | 2 => ['0', 'b']
      | 8 => ['0', 'o']
      | 16 => ['0', 'x']
      | _ => []
    let cs := if mark.isEmpty then cs else stripMark mark cs.length cs
    match signed? base cs with
    | some n => .ok (.int n)
    | none => .ok (.int (if cs.contains '.' then (pointed? cs).getD fallback else fallback))
  | .int n => .ok (.int (Float.ofInt n).toInt64.toInt)
  | .float x => .ok (.int x.toInt64.toInt)
  | _ => .error "Filter \x60int\x60 received an unexpected type"

/-- A separator, in which a written line end or tab stands for the character. -/
def separator (cs : List Char) : List Char :=
  Text.replace ['\x5c', 't'] ['\t'] (Text.replace ['\x5c', 'n'] ['\n'] cs)

def length : Value → Except String Value
  | .list items => .ok (.int items.length)
  | .object members => .ok (.int members.length)
  | .text s => .ok (.int s.length)
  | _ => .error
      "Filter \x60length\x60 was used on a value that isn't an array, an object, or a string."

/-- A value from its end to its beginning. -/
def reverse : Value → Except String Value
  | .list items => .ok (.list items.reverse)
  | .text s => .ok (ofChars s.toList.reverse)
  | v => .error ("Filter \x60reverse\x60 received an incorrect type for arg \x60value\x60: "
      ++ s!"got \x60{v.shown}\x60 but expected Array|String")

/-- The items of a list as one text. -/
def join (args : Args) (v : Value) : Except String Value := do
  let items ← listOf "join" v
  let sep ← textArg? "truncate" "sep" "sep" args
  .ok (.text ((String.ofList (separator (sep.getD []))).intercalate (Value.renderItems items)))

end Filter

abbrev Filter := Args → Value → Except String Value

def Filter.onText (name : String) (f : List Char → List Char) : Filter := fun _ v =>
  (Filter.textOf name v).map fun cs => Filter.ofChars (f cs)

def Filter.named? (name : String) : Option Filter :=
  match name with
  | "upper" => some (onText "upper" Text.upper)
  | "lower" => some (onText "lower" Text.lower)
  | "trim" => some (onText "trim" Text.trim)
  | "title" => some (onText "title" title)
  | "capitalize" => some (onText "capitalize" capitalize)
  | "escape" => some (onText "escape_html" escaped)
  | "length" => some fun _ => length
  | "reverse" => some fun _ => reverse
  | "first" => some fun _ v => (listOf "first" v).map fun vs => vs.headD (.text "")
  | "last" => some fun _ v => (listOf "last" v).map fun vs => vs.getLastD (.text "")
  | "join" => some join
  | "int" => some toInt
  | "replace" => some fun args v => do
    let cs ← textOf "replace" v
    let found ← textArg "replace" "from" args
    let instead ← textArg "replace" "to" args
    .ok (ofChars (Text.replace found instead cs))
  | _ => none

end TemplateServer.Template
