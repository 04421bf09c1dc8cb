import TemplateServer.Text.Pieces

/-!
# Path patterns

A pattern selects paths. `?` stands for any character, `*` for any run of characters, slashes
included, a bracketed list for one character in it or, after `!`, not in it, and `**` for any number
of leading directories. `**` has to be a component of its own, and it takes the slash that follows
it, so that it ends where a component starts or where the path ends.

`matchesTokens` is the meaning of a pattern: the tokens match a path if the path can be cut into
pieces that match one token each.
-/

namespace TemplateServer.Glob

/-- A part of a pattern. -/
inductive Token
  | char (c : Char)
  | anyChar
  /-- A character within one of the ranges, or outside all of them if `negated`. -/
  | within (negated : Bool) (ranges : List (Char × Char))
  /-- Any run of characters. -/
  | anySequence
  /-- Any number of leading directories. -/
  | anyDirectories
deriving DecidableEq, Repr

/-- What is wrong with a pattern. -/
inductive Flaw
  /-- Three or more stars in a row. -/
  | wildcards
  /-- Two stars that are no component. -/
  | recursiveWildcards
  /-- A bracket without its list. -/
  | range
deriving DecidableEq, Repr

def Flaw.message : Flaw → String
  | wildcards => "wildcards are either regular \x60*\x60 or recursive \x60**\x60"
  | recursiveWildcards => "recursive wildcards must form a single path component"
  | range => "invalid range pattern"

/-- A flaw and the character near which it was found. -/
structure PatternError where
  position : Nat
  flaw : Flaw
deriving DecidableEq, Repr

def PatternError.message (e : PatternError) : String :=
  s!"Pattern syntax error near position {e.position}: {e.flaw.message}"

/-- The ranges in a bracketed list. A hyphen between two characters makes a range of them. -/
def rangesOf : List Char → List (Char × Char)
  | first :: '-' :: last :: cs => (first, last) :: rangesOf cs
  | c :: cs => (c, c) :: rangesOf cs
  | [] => []

/-- A bracketed list after its bracket: whether it is negated, the characters in it, and the rest.
Its first character is in it even if it is a bracket. -/
def bracketed? : List Char → Option (Bool × List Char × List Char)
  | '!' :: first :: cs =>
    match Text.cut (· == ']') cs with
    | (body, some rest) => some (true, first :: body, rest)
    | (_, none) => none
  | ['!'] => none
  | first :: cs =>
    match Text.cut (· == ']') cs with
    | (body, some rest) => some (false, first :: body, rest)
    | (_, none) => none
  | [] => none

theorem length_lt_of_bracketed? {cs body rest : List Char} {negated : Bool}
    (h : bracketed? cs = some (negated, body, rest)) : rest.length < cs.length := by
  have key (ds : List Char) {b : List Char} {r : List Char}
      (hc : Text.cut (· == ']') ds = (b, some r)) : r.length < ds.length :=
    Text.length_lt_of_cut (by rw [hc])
  unfold bracketed? at h
  split at h
  · split at h
    · rename_i hc
      simp only [Option.some.injEq, Prod.mk.injEq] at h
      obtain ⟨-, -, rfl⟩ := h
      have := key _ hc
      simp only [List.length_cons]
      omega
    · cases h
  · cases h
  · split at h
    · rename_i hc
      simp only [Option.some.injEq, Prod.mk.injEq] at h
      obtain ⟨-, -, rfl⟩ := h
      have := key _ hc
      simp only [List.length_cons]
      omega
    · cases h
  · cases h

/--
The tokens of a pattern from `position` on. `opens` says whether a component starts there.
-/
def tokensFrom (position : Nat) (opens : Bool) (cs : List Char) :
    Except PatternError (List Token) :=
  match cs with
  | [] => .ok []
  | '?' :: cs => (tokensFrom (position + 1) false cs).map (.anyChar :: ·)
  | '*' :: '*' :: '*' :: _ => .error ⟨position + 2, .wildcards⟩
  | '*' :: '*' :: cs =>
    if !opens then .error ⟨position - 1, .recursiveWildcards⟩
    else
      match cs with
      | [] => .ok [.anyDirectories]
      | '/' :: cs => (tokensFrom (position + 3) true cs).map (.anyDirectories :: ·)
      | _ => .error ⟨position + 2, .recursiveWildcards⟩
  | '*' :: cs => (tokensFrom (position + 1) false cs).map (.anySequence :: ·)
  | '[' :: cs =>
    match h : bracketed? cs with
    | some (negated, body, rest) =>
      have := length_lt_of_bracketed? h
      (tokensFrom (position + 1 + (cs.length - rest.length)) false rest).map
        (.within negated (rangesOf body) :: ·)
    | none => .error ⟨position, .range⟩
  | c :: cs => (tokensFrom (position + 1) (c == '/') cs).map (.char c :: ·)
termination_by cs.length

/-- A pattern: its text, and the tokens that it consists of. -/
structure Pattern where
  text : String
  tokens : List Token

def Pattern.parse (text : String) : Except PatternError Pattern :=
  (tokensFrom 0 true text.toList).map (⟨text, ·⟩)

/-- All suffixes of a list, longest first. -/
def suffixes : List Char → List (List Char)
  | [] => [[]]
  | c :: cs => (c :: cs) :: suffixes cs

/-- What follows each slash, and the end of the path. -/
def componentsBelow : List Char → List (List Char)
  | [] => [[]]
  | c :: cs => if c = '/' then cs :: componentsBelow cs else componentsBelow cs

/-- Whether tokens match a path. -/
def matchesTokens : List Token → List Char → Bool
  | [], path => path.isEmpty
  | .anySequence :: tokens, path => (suffixes path).any (matchesTokens tokens)
  | .anyDirectories :: tokens, path => (path :: componentsBelow path).any (matchesTokens tokens)
  | .char c :: tokens, d :: path => c == d && matchesTokens tokens path
  | .anyChar :: tokens, _ :: path => matchesTokens tokens path
  | .within negated ranges :: tokens, d :: path =>
    (ranges.any (fun r => r.1 ≤ d && d ≤ r.2) != negated) && matchesTokens tokens path
  | _ :: _, [] => false

/-- Whether a pattern matches a path. -/
def Pattern.matches (p : Pattern) (path : String) : Bool := matchesTokens p.tokens path.toList

end TemplateServer.Glob
