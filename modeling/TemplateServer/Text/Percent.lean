import TemplateServer.Text.Pieces
import TemplateServer.Text.Utf8

/-!
# Percent-encoded text and form pairs

In a request target an octet may be written as `%` and two hexadecimal digits. `decodePercent`
undoes this once; a `%` without two digits stands for itself.

A query string lists pairs: `formPairs` cuts it at every `&`, skips empty pieces, cuts each piece
at its first `=`, reads `+` as a space, undoes the percent-encoding and reads the octets as text,
with U+FFFD where they are no text.
-/

namespace TemplateServer.Text

/-- The value of a hexadecimal digit, in either case. -/
def hexValue? (b : UInt8) : Option UInt8 :=
  if 0x30 ≤ b ∧ b ≤ 0x39 then some (b - 0x30)
  else if 0x41 ≤ b ∧ b ≤ 0x46 then some (b - 0x41 + 10)
  else if 0x61 ≤ b ∧ b ≤ 0x66 then some (b - 0x61 + 10)
  else none

/-- The octet that two hexadecimal digits write. -/
def hexOctet? (high low : UInt8) : Option UInt8 := do
  let h ← hexValue? high
  let l ← hexValue? low
  return h * 16 + l

/-- Undoes percent-encoding once. -/
def decodePercent : List UInt8 → List UInt8
  | 0x25 :: high :: low :: bs =>
    match hexOctet? high low with
    | some b => b :: decodePercent bs
    | none => 0x25 :: decodePercent (high :: low :: bs)
  | b :: bs => b :: decodePercent bs
  | [] => []

/-- One component of a form pair: `+` is a space, and percent-encoding is undone after that. -/
def decodeComponent (bs : List UInt8) : List Char :=
  Utf8.decodeLossy (decodePercent (bs.map fun b => if b = 0x2B then 0x20 else b))

/-- A piece of a query string as a pair; without `=` its value is empty. -/
def formPair (piece : List UInt8) : List Char × List Char :=
  let (name, value) := cut (· == 0x3D) piece
  (decodeComponent name, decodeComponent (value.getD []))

/-- The pairs that the octets of a query string list, in order. -/
def formPairs (query : List UInt8) : List (List Char × List Char) :=
  ((pieces (· == 0x26) query).filter fun piece => !piece.isEmpty).map formPair

end TemplateServer.Text
