import TemplateServer.Text.Pieces

/-!
# Texts in place of others

Occurrences of a text are looked for from left to right, and none overlaps the one before it.
-/

namespace TemplateServer.Text

/-- Puts one text in place of another, from left to right. `skip` characters belong to the last
place found. -/
def replaceFrom (found instead : List Char) : Nat → List Char → List Char
  | _, [] => if found.isEmpty then instead else []
  | skip + 1, _ :: cs => replaceFrom found instead skip cs
  | 0, c :: cs =>
    if found.isEmpty then instead ++ c :: replaceFrom found instead 0 cs
    else if found.isPrefixOf (c :: cs) then
      instead ++ replaceFrom found instead (found.length - 1) cs
    else c :: replaceFrom found instead 0 cs

/-- Puts one text in place of another, wherever it stands. An empty text stands between all
characters. -/
def replace (found instead cs : List Char) : List Char := replaceFrom found instead 0 cs

/-- Cuts a text at the first occurrence of another one: what stands before it, and what follows if
there is one. -/
def cutAt (found cs : List Char) : List Char × Option (List Char) :=
  match suffixFrom? found cs with
  | some suffix => (cs.take (cs.length - suffix.length), some (suffix.drop found.length))
  | none => (cs, none)

end TemplateServer.Text
