import TemplateServer.Text.Pieces
import TemplateServer.Toml.Value

/-!
# Reading settings documents

A document is a list of lines, each of which gives one key its value, holds a comment, or is empty.
Every reader here takes the characters that are left and answers a value with the characters after
it; where it cannot go on, it answers the characters that stopped it.
-/

namespace TemplateServer.Toml

/-- What a reader answers: a value and the rest, or the characters that stopped it. -/
abbrev Reading (α : Type) := Except (List Char) (α × List Char)

/-- Spaces and tabs are skipped. -/
def skipBlanks (cs : List Char) : List Char := cs.dropWhile fun c => c == ' ' || c == '\t'

/-- Control characters, which stand nowhere but in line ends and escaped in strings. A tab is none
of them. -/
def isControl (c : Char) : Bool := (c.toNat < 0x20 && c != '\t') || c == '\x7f'

/-- Skips a comment, up to the end of its line. -/
def skipComment : List Char → List Char
  | '#' :: cs => cs.dropWhile fun c => !isControl c
  | cs => cs

/-- What follows the end of a line. -/
def afterNewline? : List Char → Option (List Char)
  | '\n' :: cs => some cs
  | '\r' :: '\n' :: cs => some cs
  | _ => none

/-- Skips blanks, comments and line ends, over at most `fuel` lines. -/
def skipLines : Nat → List Char → List Char
  | 0, cs => cs
  | fuel + 1, cs =>
    let rest := skipComment (skipBlanks cs)
    match afterNewline? rest with
    | some next => skipLines fuel next
    | none => rest

/-- The value of a digit in a base up to 16. -/
def digitValue? (base : Nat) (c : Char) : Option Nat :=
  let n := c.toNat
  let value :=
    if 0x30 ≤ n && n ≤ 0x39 then n - 0x30
    else if 0x41 ≤ n && n ≤ 0x46 then n - 0x41 + 10
    else if 0x61 ≤ n && n ≤ 0x66 then n - 0x61 + 10
    else base
  if value < base then some value else none

def numberOfDigits? (base : Nat) (cs : List Char) : Option Nat :=
  cs.foldlM (fun n c => (digitValue? base c).map (n * base + ·)) 0

/-- The character whose code point the digits write. -/
def charOfDigits? (cs : List Char) : Option Char := do
  let n ← numberOfDigits? 16 cs
  if h : n.isValidChar then some (Char.ofNatAux n h) else none

/-- What an escape that is one letter stands for. -/
def escaped? : Char → Option Char
  | 'b' => some '\x08'
  | 't' => some '\t'
  | 'n' => some '\n'
  | 'f' => some '\x0c'
  | 'r' => some '\r'
  | 'e' => some '\x1b'
  | '"' => some '"'
  | '\x5c' => some '\x5c'
  | _ => none

/-- The number of digits that follow an escape letter. -/
def escapeDigits? : Char → Option Nat
  | 'x' => some 2
  | 'u' => some 4
  | 'U' => some 8
  | _ => none

/-- The character that an escape stands for, the backslash being read. -/
def escape : List Char → Reading Char
  | [] => .error []
  | c :: cs =>
    match escapeDigits? c with
    | some count =>
      match charOfDigits? (cs.take count) with
      | some d => if (cs.take count).length = count then .ok (d, cs.drop count) else .error cs
      | none => .error cs
    | none =>
      match escaped? c with
      | some d => .ok (d, cs)
      | none => .error (c :: cs)

/-- Puts characters in front of what a reader answers. -/
def Reading.prepend (front : List Char) : Reading (List Char) → Reading (List Char)
  | .ok (cs, rest) => .ok (front ++ cs, rest)
  | .error rest => .error rest

/-- The characters of a string in double quotes, from after the opening quote on. -/
def basicTail : Nat → List Char → Reading (List Char)
  | 0, cs => .error cs
  | _ + 1, [] => .error []
  | fuel + 1, c :: cs =>
    if c == '"' then .ok ([], cs)
    else if c == '\x5c' then
      match escape cs with
      | .ok (d, rest) => (basicTail fuel rest).prepend [d]
      | .error rest => .error rest
    else if isControl c then .error (c :: cs)
    else (basicTail fuel cs).prepend [c]

/-- The characters of a string in single quotes, from after the opening quote on. -/
def literalTail : List Char → Reading (List Char)
  | [] => .error []
  | c :: cs =>
    if c == '\x27' then .ok ([], cs)
    else if isControl c then .error (c :: cs)
    else (literalTail cs).prepend [c]

/-- How many quotes of a row belong to the text when the row ends a string over several lines: up to
two before the three that close it. -/
def closing? (quote : Char) (cs : List Char) : Option (List Char × List Char) :=
  let row := (cs.takeWhile (· == quote)).length
  if row < 3 then none
  else
    let inside := min (row - 3) 2
    some (List.replicate inside quote, cs.drop (inside + 3))

/-- Skips blanks and line ends, over at most `fuel` lines. -/
def skipEmptyLines : Nat → List Char → List Char
  | 0, cs => cs
  | fuel + 1, cs =>
    match afterNewline? (skipBlanks cs) with
    | some next => skipEmptyLines fuel next
    | none => skipBlanks cs

/-- Skips what a backslash at the end of a line takes with it: all blanks and line ends. -/
def skipContinuation? (cs : List Char) : Option (List Char) :=
  (afterNewline? (skipBlanks cs)).map fun next => skipEmptyLines (next.length + 1) next

/-- The characters of a string over several lines, with escapes. -/
def blockBasicTail : Nat → List Char → Reading (List Char)
  | 0, cs => .error cs
  | _ + 1, [] => .error []
  | fuel + 1, c :: cs =>
    match closing? '"' (c :: cs) with
    | some (inside, rest) => .ok (inside, rest)
    | none =>
      if c == '\x5c' then
        match skipContinuation? cs with
        | some rest => blockBasicTail fuel rest
        | none =>
          match escape cs with
          | .ok (d, rest) => (blockBasicTail fuel rest).prepend [d]
          | .error rest => .error rest
      else
        match afterNewline? (c :: cs) with
        | some rest =>
          (blockBasicTail fuel rest).prepend ((c :: cs).take (cs.length + 1 - rest.length))
        | none => if isControl c then .error (c :: cs) else (blockBasicTail fuel cs).prepend [c]

/-- The characters of a string over several lines, without escapes. -/
def blockLiteralTail : Nat → List Char → Reading (List Char)
  | 0, cs => .error cs
  | _ + 1, [] => .error []
  | fuel + 1, c :: cs =>
    match closing? '\x27' (c :: cs) with
    | some (inside, rest) => .ok (inside, rest)
    | none =>
      match afterNewline? (c :: cs) with
      | some rest =>
        (blockLiteralTail fuel rest).prepend ((c :: cs).take (cs.length + 1 - rest.length))
      | none => if isControl c then .error (c :: cs) else (blockLiteralTail fuel cs).prepend [c]

/-- A string over several lines does not begin with the line end after its opening quotes. -/
def skipFirstNewline (cs : List Char) : List Char := (afterNewline? cs).getD cs

/-- A string in any of its four forms. -/
def string (cs : List Char) : Reading (List Char) :=
  match cs with
  | '"' :: '"' :: '"' :: rest => blockBasicTail (rest.length + 1) (skipFirstNewline rest)
  | '"' :: rest => basicTail (rest.length + 1) rest
  | '\x27' :: '\x27' :: '\x27' :: rest =>
    blockLiteralTail (rest.length + 1) (skipFirstNewline rest)
  | '\x27' :: rest => literalTail rest
  | _ => .error cs

/-- The digits of a number, in groups with an underscore between each two. -/
def groupedDigits? (base : Nat) (cs : List Char) : Option Nat :=
  let groups := Text.pieces (· == '_') cs
  if groups.any (·.isEmpty) then none else numberOfDigits? base groups.flatten

/-- A decimal number without sign. It has no leading zeros. -/
def decimal? : List Char → Option Nat
  | ['0'] => some 0
  | '0' :: _ => none
  | cs => groupedDigits? 10 cs

def integer? (cs : List Char) : Option Int := do
  let n : Int ←
    match cs with
    | '0' :: 'x' :: cs => (groupedDigits? 16 cs).map Int.ofNat
    | '0' :: 'o' :: cs => (groupedDigits? 8 cs).map Int.ofNat
    | '0' :: 'b' :: cs => (groupedDigits? 2 cs).map Int.ofNat
    | '+' :: cs => (decimal? cs).map Int.ofNat
    | '-' :: cs => (decimal? cs).map fun n => -Int.ofNat n
    | cs => (decimal? cs).map Int.ofNat
  if minInteger ≤ n && n ≤ maxInteger then some n else none

/-- The texts in a list, from after its opening bracket on. -/
def textsTail : Nat → List Char → Reading (List String)
  | 0, cs => .error cs
  | fuel + 1, cs =>
    match skipLines cs.length cs with
    | ']' :: rest => .ok ([], rest)
    | cs =>
      match string cs with
      | .error rest => .error rest
      | .ok (s, rest) =>
        match skipLines rest.length rest with
        | ',' :: rest =>
          match textsTail fuel rest with
          | .ok (ss, rest) => .ok (String.ofList s :: ss, rest)
          | .error rest => .error rest
        | ']' :: rest => .ok ([String.ofList s], rest)
        | rest => .error rest

/-- Characters of keys without quotes. -/
def isBareKeyChar (c : Char) : Bool := c.isAlphanum || c == '-' || c == '_'

def value (cs : List Char) : Reading Value :=
  match cs with
  | '[' :: rest =>
    match textsTail (rest.length + 1) rest with
    | .ok (ss, rest) => .ok (.texts ss, rest)
    | .error rest => .error rest
  | c :: _ =>
    if c == '"' || c == '\x27' then
      match string cs with
      | .ok (s, rest) => .ok (.text (String.ofList s), rest)
      | .error rest => .error rest
    else
      let isPart := fun c => isBareKeyChar c || c == '+'
      let word := cs.takeWhile isPart
      let rest := cs.dropWhile isPart
      if word == "true".toList then .ok (.flag true, rest)
      else if word == "false".toList then .ok (.flag false, rest)
      else
        match integer? word with
        | some n => .ok (.integer n, rest)
        | none => .error cs
  | [] => .error []

/-- A key. Only strings of one line are keys. -/
def key (cs : List Char) : Reading (List Char) :=
  match cs with
  | '"' :: rest => basicTail (rest.length + 1) rest
  | '\x27' :: rest => literalTail rest
  | _ =>
    let bare := cs.takeWhile isBareKeyChar
    if bare.isEmpty then .error cs else .ok (bare, cs.dropWhile isBareKeyChar)

def setting (cs : List Char) : Reading (String × Value) :=
  match key cs with
  | .error rest => .error rest
  | .ok (name, rest) =>
    match skipBlanks rest with
    | '=' :: rest =>
      match value (skipBlanks rest) with
      | .ok (v, rest) => .ok ((String.ofList name, v), rest)
      | .error rest => .error rest
    | rest => .error rest

/-- The settings of a document, each one at the end of its line. No key is given twice. -/
def settings : Nat → Document → List Char → Except (List Char) Document
  | 0, _, cs => .error cs
  | fuel + 1, before, cs =>
    match skipLines cs.length cs with
    | [] => .ok before
    | cs =>
      match setting cs with
      | .error rest => .error rest
      | .ok (s, rest) =>
        if (before.lookup s.1).isSome then .error cs
        else
          let document := before ++ [s]
          match skipComment (skipBlanks rest) with
          | [] => .ok document
          | rest =>
            match afterNewline? rest with
            | some next => settings fuel document next
            | none => .error rest

/-- A mark at the beginning of a document that says how it is encoded is skipped. -/
def skipMark : List Char → List Char
  | '\uFEFF' :: cs => cs
  | cs => cs

/-- The document that a text is, or the characters from which on it is none. -/
def read (text : String) : Except (List Char) Document :=
  let cs := skipMark text.toList
  settings (cs.length + 1) [] cs

end TemplateServer.Toml
