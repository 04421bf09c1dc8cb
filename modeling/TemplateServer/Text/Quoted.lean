import TemplateServer.Text.Visible

/-!
# Quoted text

Text from outside is written between double quotes in the log, so that its end and every character
in it can be seen: quotes, backslashes and the usual controls by a backslash and a letter, all other
characters that cannot be shown by themselves by their code points.
-/

namespace TemplateServer.Text

/-- The digit for a number below 16. -/
def hexDigit (n : Nat) : Char := Char.ofNat (if n < 10 then 0x30 + n else 0x57 + n)

/-- The hexadecimal digits of a number, at least one, without leading zeros. -/
def hexDigits (n : Nat) : List Char :=
  if n < 16 then [hexDigit n] else hexDigits (n / 16) ++ [hexDigit (n % 16)]

/-- A character as it stands between the quotes. -/
def quotedChar (c : Char) : List Char :=
  if c == '"' || c == '\x5c' then ['\x5c', c]
  else if c == '\t' then ['\x5c', 't']
  else if c == '\r' then ['\x5c', 'r']
  else if c == '\n' then ['\x5c', 'n']
  else if c == '\x00' then ['\x5c', '0']
  else if isVisible c || c == ' ' then [c]
  else ['\x5c', 'u', '\x7b'] ++ hexDigits c.toNat ++ ['\x7d']

def quoted (s : String) : String := String.ofList ('"' :: s.toList.flatMap quotedChar ++ ['"'])

/-- A text between quotes if there is one, and the word `None` if there is not. -/
def quotedOption : Option String → String
  | none => "None"
  | some s => "Some(" ++ quoted s ++ ")"

end TemplateServer.Text
