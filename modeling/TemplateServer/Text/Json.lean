import TemplateServer.Text.Quoted

/-!
# JSON text

Values that are written as JSON: in one line, or with every element on a line of its own.
-/

namespace TemplateServer.Text

/-- A value that is written as JSON. The members of an object keep their order. -/
inductive Json
  | null
  | bool (b : Bool)
  /-- A number, as it is written. -/
  | number (text : String)
  | string (s : String)
  | array (items : List Json)
  | object (members : List (String × Json))

namespace Json

/-- A character as it stands in a string. -/
def escapedChar (c : Char) : List Char :=
  if c == '"' || c == '\x5c' then ['\x5c', c]
  else if c == '\x08' then ['\x5c', 'b']
  else if c == '\t' then ['\x5c', 't']
  else if c == '\n' then ['\x5c', 'n']
  else if c == '\x0c' then ['\x5c', 'f']
  else if c == '\r' then ['\x5c', 'r']
  else if c.toNat < 0x20 then
    ['\x5c', 'u', '0', '0', hexDigit (c.toNat / 16), hexDigit (c.toNat % 16)]
  else [c]

def quote (s : String) : String := String.ofList ('"' :: s.toList.flatMap escapedChar ++ ['"'])

mutual

def compact : Json → String
  | null => "null"
  | bool b => if b then "true" else "false"
  | number text => text
  | string s => quote s
  | array items => "[" ++ ",".intercalate (compactItems items) ++ "]"
  | object members => "\x7b" ++ ",".intercalate (compactMembers members) ++ "\x7d"

def compactItems : List Json → List String
  | [] => []
  | v :: vs => compact v :: compactItems vs

def compactMembers : List (String × Json) → List String
  | [] => []
  | (name, v) :: rest => (quote name ++ ":" ++ compact v) :: compactMembers rest

end

/-- A bracketed list with every part on a line of its own, below a given indentation. -/
def bracketed (opening closing indent : String) : List String → String
  | [] => opening ++ closing
  | parts =>
    let inner := "\n" ++ indent ++ "  "
    opening ++ inner ++ ("," ++ inner).intercalate parts ++ "\n" ++ indent ++ closing

mutual

/-- A value over several lines. Every line but the first starts with the indentation. -/
def pretty (indent : String) : Json → String
  | array items => bracketed "[" "]" indent (prettyItems (indent ++ "  ") items)
  | object members => bracketed "\x7b" "\x7d" indent (prettyMembers (indent ++ "  ") members)
  | null => compact null
  | bool b => compact (bool b)
  | number text => compact (number text)
  | string s => compact (string s)

def prettyItems (indent : String) : List Json → List String
  | [] => []
  | v :: vs => pretty indent v :: prettyItems indent vs

def prettyMembers (indent : String) : List (String × Json) → List String
  | [] => []
  | (name, v) :: rest => (quote name ++ ": " ++ pretty indent v) :: prettyMembers indent rest

end

end Json

end TemplateServer.Text
