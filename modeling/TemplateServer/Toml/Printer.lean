import TemplateServer.Text.Quoted
import TemplateServer.Toml.Value

/-!
# Writing settings documents

One line for each setting, in order. A text is written in the plainest of four forms that it fits
into; a list of several texts takes a line for each of them.
-/

namespace TemplateServer.Toml

/-- What decides about the form of a text. -/
structure Traits where
  /-- Control characters other than tabs and line feeds. -/
  controls : Bool
  backslashes : Bool
  newlines : Bool
  /-- The most double quotes in a row. -/
  doubleQuotes : Nat
  /-- The most single quotes in a row. -/
  singleQuotes : Nat

/-- The length of the longest row of a character, where `row` of them stand in front. -/
def longestRow (quote : Char) (row : Nat) : List Char → Nat
  | [] => row
  | c :: cs => if c == quote then longestRow quote (row + 1) cs else max row (longestRow quote 0 cs)

def Traits.ofText (cs : List Char) : Traits where
  controls := cs.any fun c => (c.toNat < 0x20 && c != '\t' && c != '\n') || c == '\x7f'
  backslashes := cs.contains '\x5c'
  newlines := cs.contains '\n'
  doubleQuotes := longestRow '"' 0 cs
  singleQuotes := longestRow '\x27' 0 cs

/-- How a text is written. -/
inductive Form
  /-- In double quotes, with escapes. -/
  | basic
  /-- In single quotes, as it is. -/
  | literal
  /-- In three double quotes, with escapes. -/
  | blockBasic
  /-- In three single quotes, as it is. -/
  | blockLiteral
deriving DecidableEq, Repr

/-- The plainest form that a text fits into. -/
def Form.ofTraits (t : Traits) : Form :=
  if !t.controls && !t.backslashes && t.doubleQuotes == 0 && !t.newlines then .basic
  else if !t.controls && t.singleQuotes == 0 && !t.newlines then .literal
  else if !t.controls && !t.backslashes && t.doubleQuotes ≤ 2 then .blockBasic
  else if !t.controls && t.singleQuotes ≤ 2 then .blockLiteral
  else if t.newlines then .blockBasic
  else .basic

/-- A number in four hexadecimal digits. -/
def fourDigits (n : Nat) : List Char :=
  let digits := (Text.hexDigits n).map Char.toUpper
  List.replicate (4 - digits.length) '0' ++ digits

/-- A character other than a quote as it is written where escapes are read. -/
def escapedChar (block : Bool) (c : Char) : List Char :=
  if c == '\x08' then ['\x5c', 'b']
  else if c == '\t' then ['\x5c', 't']
  else if c == '\n' then (if block then [c] else ['\x5c', 'n'])
  else if c == '\x0c' then ['\x5c', 'f']
  else if c == '\r' then ['\x5c', 'r']
  else if c == '\x5c' then ['\x5c', '\x5c']
  else if c.toNat < 0x20 || c == '\x7f' then '\x5c' :: 'u' :: fourDigits c.toNat
  else [c]

/-- A text with its escapes. `row` double quotes stand in front of it, and in a block two in a row
need no escape. -/
def escapedText (block : Bool) (row : Nat) : List Char → List Char
  | [] => []
  | c :: cs =>
    if c == '"' then
      if block && row < 2 then '"' :: escapedText block (row + 1) cs
      else '\x5c' :: '"' :: escapedText block 0 cs
    else escapedChar block c ++ escapedText block 0 cs

/-- What follows the opening quotes of a block: a text with several lines starts on a new one. -/
def blockStart (cs : List Char) : List Char := if cs.contains '\n' then ['\n'] else []

def Form.write (form : Form) (cs : List Char) : List Char :=
  match form with
  | .basic => ['"'] ++ escapedText false 0 cs ++ ['"']
  | .literal => ['\x27'] ++ cs ++ ['\x27']
  | .blockBasic => ['"', '"', '"'] ++ blockStart cs ++ escapedText true 0 cs ++ ['"', '"', '"']
  | .blockLiteral =>
    ['\x27', '\x27', '\x27'] ++ blockStart cs ++ cs ++ ['\x27', '\x27', '\x27']

def writeText (s : String) : List Char := (Form.ofTraits (.ofText s.toList)).write s.toList

/-- A list of texts as it is written. -/
def writeTexts : List String → List Char
  | [] => ['[', ']']
  | [s] => '[' :: writeText s ++ [']']
  | ss => '[' :: '\n' :: ss.flatMap (fun s => "    ".toList ++ writeText s ++ [',', '\n']) ++ [']']

def Value.write : Value → List Char
  | text s => writeText s
  | integer n => (toString n).toList
  | flag b => (if b then "true" else "false").toList
  | texts ss => writeTexts ss

/-- A document as it is written. The keys need no quotes. -/
def write (document : Document) : String :=
  String.ofList (document.flatMap fun (name, value) =>
    name.toList ++ " = ".toList ++ value.write ++ ['\n'])

end TemplateServer.Toml
