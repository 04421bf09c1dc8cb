/-!
# UTF-8 octets

File contents and percent-decoded text arrive as octets. Two readers turn them into characters:

* `decode?` answers nothing unless every octet belongs to a well-formed character;
* `decodeLossy` writes one U+FFFD for each maximal part of an ill-formed sequence and reads on.

Both run the same machine, one octet at a time: `lead` takes the first octet of a character, and
`Pending.push` the ones that it owes. A `Pending` holds the range that the next octet must lie in,
which is what keeps out overlong forms, surrogates and numbers above U+10FFFF.
-/

namespace TemplateServer.Utf8

/-- A character of which at least one octet is still owed. -/
structure Pending where
  /-- Octets owed after the next one. -/
  owed : Nat
  /-- The least octet that may come next. -/
  low : UInt8
  /-- The greatest octet that may come next. -/
  high : UInt8
  /-- The bits of the code point read so far. -/
  bits : Nat
deriving DecidableEq, Repr

/-- What an octet makes of the character it belongs to. -/
inductive Step
  | char (c : Char)
  | pending (p : Pending)
  /-- No character can go on like this. -/
  | refused
deriving DecidableEq, Repr

/-- The first octet of a character. -/
def lead (b : UInt8) : Step :=
  let n := b.toNat
  if n ≤ 0x7F then .char (Char.ofNat n)
  else if n < 0xC2 then .refused
  else if n ≤ 0xDF then .pending ⟨0, 0x80, 0xBF, n - 0xC0⟩
  else if n = 0xE0 then .pending ⟨1, 0xA0, 0xBF, n - 0xE0⟩
  else if n = 0xED then .pending ⟨1, 0x80, 0x9F, n - 0xE0⟩
  else if n ≤ 0xEF then .pending ⟨1, 0x80, 0xBF, n - 0xE0⟩
  else if n = 0xF0 then .pending ⟨2, 0x90, 0xBF, n - 0xF0⟩
  else if n ≤ 0xF3 then .pending ⟨2, 0x80, 0xBF, n - 0xF0⟩
  else if n = 0xF4 then .pending ⟨2, 0x80, 0x8F, n - 0xF0⟩
  else .refused

/-- A further octet of a pending character. -/
def Pending.push (p : Pending) (b : UInt8) : Step :=
  if p.low ≤ b ∧ b ≤ p.high then
    let bits := p.bits * 64 + (b.toNat - 0x80)
    match p.owed with
    | 0 => .char (Char.ofNat bits)
    | n + 1 => .pending ⟨n, 0x80, 0xBF, bits⟩
  else .refused

/-- The octet where the machine stands: in a pending character, or between characters. -/
def step : Option Pending → UInt8 → Step
  | none, b => lead b
  | some p, b => p.push b

/-- Reads octets from the state `q`, refusing all unless they end between characters. -/
def decodeFrom? : Option Pending → List UInt8 → Option (List Char)
  | none, [] => some []
  | some _, [] => none
  | q, b :: bs =>
    match step q b with
    | .char c => (decodeFrom? none bs).map (c :: ·)
    | .pending p => decodeFrom? (some p) bs
    | .refused => none

def decode? (bs : List UInt8) : Option (List Char) := decodeFrom? none bs

/-- The character that stands for an ill-formed sequence. -/
def replacement : Char := '\uFFFD'

/--
Reads octets from the state `q`. An octet that a pending character cannot take ends the ill-formed
sequence before it and is read again as a first octet.
-/
def decodeLossyFrom : Option Pending → List UInt8 → List Char
  | none, [] => []
  | some _, [] => [replacement]
  | none, b :: bs =>
    match lead b with
    | .char c => c :: decodeLossyFrom none bs
    | .pending p => decodeLossyFrom (some p) bs
    | .refused => replacement :: decodeLossyFrom none bs
  | some p, b :: bs =>
    match p.push b with
    | .char c => c :: decodeLossyFrom none bs
    | .pending p => decodeLossyFrom (some p) bs
    | .refused =>
      replacement ::
        match lead b with
        | .char c => c :: decodeLossyFrom none bs
        | .pending p => decodeLossyFrom (some p) bs
        | .refused => replacement :: decodeLossyFrom none bs

/-- The characters of any octets. -/
def decodeLossy (bs : List UInt8) : List Char := decodeLossyFrom none bs

def encode (cs : List Char) : List UInt8 := cs.flatMap String.utf8EncodeChar

/-- The number of octets that a text takes. -/
def length (s : String) : Nat := s.utf8ByteSize

/-- Where strict reading succeeds, replacing reading answers the same characters. -/
theorem decodeLossyFrom_of_decodeFrom? {q : Option Pending} {bs : List UInt8} {cs : List Char}
    (h : decodeFrom? q bs = some cs) : decodeLossyFrom q bs = cs := by
  induction bs generalizing q cs with
  | nil => cases q <;> simp_all [decodeFrom?, decodeLossyFrom]
  | cons b bs ih =>
    cases q with
    | none =>
      simp only [decodeFrom?, step] at h
      simp only [decodeLossyFrom]
      split at h
      · obtain ⟨ds, hds, rfl⟩ := Option.map_eq_some_iff.1 h
        rw [ih hds]
      · exact ih h
      · cases h
    | some p =>
      simp only [decodeFrom?, step] at h
      simp only [decodeLossyFrom]
      split at h
      · obtain ⟨ds, hds, rfl⟩ := Option.map_eq_some_iff.1 h
        rw [ih hds]
      · exact ih h
      · cases h

theorem decodeLossy_of_decode? {bs : List UInt8} {cs : List Char} (h : decode? bs = some cs) :
    decodeLossy bs = cs :=
  decodeLossyFrom_of_decodeFrom? h

end TemplateServer.Utf8
