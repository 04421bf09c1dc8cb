import TemplateServer.Text.Utf8

/-!
# What is UTF-8

`decode?` reads what `encode` writes and nothing else (`decode?_eq_some_iff`). Both directions are
one induction along the octets: `Follows` says which octets may come after a state of the machine
and which characters they make, and `follows_cons` that a step of the machine takes the first of
these octets off.

The bounds that a `Pending` sets on the next octet are what makes this an equivalence. `Admits` is
the same bounds, read as bounds on the code point.
-/

namespace TemplateServer.Utf8

/-- A number without its last `n` groups of six bits. -/
def shifted : Nat → Nat → Nat
  | 0, v => v
  | n + 1, v => shifted n v / 64

section

variable (v : Nat)

@[simp] theorem shifted_zero : shifted 0 v = v := rfl

@[simp] theorem shifted_one : shifted 1 v = v / 64 := rfl

@[simp] theorem shifted_two : shifted 2 v = v / 4096 := Nat.div_div_eq_div_mul v 64 64

@[simp] theorem shifted_three : shifted 3 v = v / 262144 := by
  show shifted 2 v / 64 = _
  rw [shifted_two, Nat.div_div_eq_div_mul]

end

/-- The last `n` octets that a code point takes, six bits each. -/
def tails : Nat → Nat → List UInt8
  | 0, _ => []
  | n + 1, v => UInt8.ofNat (0x80 + shifted n v % 64) :: tails n v

namespace Pending

/-- No octet is asked for but one that goes on with a character. -/
structure Sound (p : Pending) : Prop where
  low : 0x80 ≤ p.low.toNat
  high : p.high.toNat ≤ 0xBF

/-- A code point that starts with the bits read so far and may go on as it does. -/
structure Admits (p : Pending) (v : Nat) : Prop where
  bits : shifted (p.owed + 1) v = p.bits
  low : p.low.toNat ≤ 0x80 + shifted p.owed v % 64
  high : 0x80 + shifted p.owed v % 64 ≤ p.high.toNat

end Pending

/-! ## Characters and their octets -/

section

variable {v : Nat}

/-- A code point of a character is kept by the character. -/
theorem toNat_ofNat_of_valid (h : v.isValidChar) : (Char.ofNat v).val.toNat = v := by
  unfold Char.ofNat
  rw [dif_pos h]
  rfl

theorem toNat_ofNat_lt (h : v < 256) : (UInt8.ofNat v).toNat = v := by
  rw [UInt8.toNat_ofNat']
  exact Nat.mod_eq_of_lt h

theorem ofNat_eq {b : UInt8} (h : b.toNat = v) : UInt8.ofNat v = b := by
  rw [← h]
  exact UInt8.ofNat_toNat

/-- Seven bits take one octet. -/
theorem encodeChar_one (h : v ≤ 0x7F) : String.utf8EncodeChar (Char.ofNat v) = [UInt8.ofNat v] := by
  have hv := toNat_ofNat_of_valid (v := v) (.inl (by omega))
  unfold String.utf8EncodeChar
  simp only [hv]
  rw [if_pos h]

/-- Eleven bits take two octets. -/
theorem encodeChar_two (hlow : 0x80 ≤ v) (hhigh : v ≤ 0x7FF) :
    String.utf8EncodeChar (Char.ofNat v) = UInt8.ofNat (0xC0 + v / 64) :: tails 1 v := by
  have hv := toNat_ofNat_of_valid (v := v) (.inl (by omega))
  have hlead : v / 64 % 0x20 + 0xc0 = 0xC0 + v / 64 := by omega
  unfold String.utf8EncodeChar
  simp only [hv]
  rw [if_neg (by omega), if_pos hhigh, hlead]
  simp [tails, Nat.add_comm]

/-- Sixteen bits take three octets. What stands for halves of pairs is no character. -/
theorem encodeChar_three (hlow : 0x800 ≤ v) (hhigh : v ≤ 0xFFFF)
    (hvalid : v < 0xD800 ∨ 0xDFFF < v) :
    String.utf8EncodeChar (Char.ofNat v) = UInt8.ofNat (0xE0 + v / 4096) :: tails 2 v := by
  have hv := toNat_ofNat_of_valid (v := v) (by unfold Nat.isValidChar; omega)
  have hlead : v / 4096 % 0x10 + 0xe0 = 0xE0 + v / 4096 := by omega
  unfold String.utf8EncodeChar
  simp only [hv]
  rw [if_neg (by omega), if_neg (by omega), if_pos hhigh, hlead]
  simp [tails, Nat.add_comm]

/-- All other characters take four octets. -/
theorem encodeChar_four (hlow : 0x10000 ≤ v) (hhigh : v ≤ 0x10FFFF) :
    String.utf8EncodeChar (Char.ofNat v) = UInt8.ofNat (0xF0 + v / 262144) :: tails 3 v := by
  have hv := toNat_ofNat_of_valid (v := v) (by unfold Nat.isValidChar; omega)
  have hlead : v / 262144 % 0x08 + 0xf0 = 0xF0 + v / 262144 := by omega
  unfold String.utf8EncodeChar
  simp only [hv]
  rw [if_neg (by omega), if_neg (by omega), if_neg (by omega), hlead]
  simp [tails, Nat.add_comm]

end

/-! ## First octets -/

section

variable {b low high : UInt8} {v : Nat}

/-- What comes of a first octet that owes one more. -/
theorem encodeChar_of_admits_two (hb : 0xC2 ≤ b.toNat) (hb' : b.toNat ≤ 0xDF)
    (h : Pending.Admits ⟨0, 0x80, 0xBF, b.toNat - 0xC0⟩ v) :
    String.utf8EncodeChar (Char.ofNat v) = b :: tails 1 v := by
  have hbits : v / 64 = b.toNat - 0xC0 := by simpa using h.bits
  rw [encodeChar_two (by omega) (by omega), ofNat_eq (b := b) (by omega)]

/-- What comes of a first octet that owes two more: the bounds on the next one keep out the code
points that take fewer octets, and the surrogates. -/
theorem encodeChar_of_admits_three (hb : 0xE0 ≤ b.toNat) (hb' : b.toNat ≤ 0xEF)
    (hshort : b.toNat = 0xE0 → 0xA0 ≤ low.toNat) (hsurrogate : b.toNat = 0xED → high.toNat ≤ 0x9F)
    (h : Pending.Admits ⟨1, low, high, b.toNat - 0xE0⟩ v) :
    String.utf8EncodeChar (Char.ofNat v) = b :: tails 2 v := by
  have hbits : v / 4096 = b.toNat - 0xE0 := by simpa using h.bits
  have hlow : low.toNat ≤ 0x80 + v / 64 % 64 := by simpa using h.low
  have hhigh : 0x80 + v / 64 % 64 ≤ high.toNat := by simpa using h.high
  rw [encodeChar_three (by omega) (by omega) (by omega), ofNat_eq (b := b) (by omega)]

/-- What comes of a first octet that owes three more: the bounds on the next one keep out the code
points that take fewer octets, and the numbers above the last code point. -/
theorem encodeChar_of_admits_four (hb : 0xF0 ≤ b.toNat) (hb' : b.toNat ≤ 0xF4)
    (hshort : b.toNat = 0xF0 → 0x90 ≤ low.toNat) (hlast : b.toNat = 0xF4 → high.toNat ≤ 0x8F)
    (h : Pending.Admits ⟨2, low, high, b.toNat - 0xF0⟩ v) :
    String.utf8EncodeChar (Char.ofNat v) = b :: tails 3 v := by
  have hbits : v / 262144 = b.toNat - 0xF0 := by simpa using h.bits
  have hlow : low.toNat ≤ 0x80 + v / 4096 % 64 := by simpa using h.low
  have hhigh : 0x80 + v / 4096 % 64 ≤ high.toNat := by simpa using h.high
  rw [encodeChar_four (by omega) (by omega), ofNat_eq (b := b) (by omega)]

end

/-- An octet that stands for a character alone is all of its encoding. -/
theorem lead_char {b : UInt8} {c : Char} (h : lead b = .char c) :
    String.utf8EncodeChar c = [b] := by
  unfold lead at h
  dsimp only at h
  split at h
  next hone =>
    cases h
    rw [encodeChar_one hone, UInt8.ofNat_toNat]
  next => (repeat' split at h) <;> cases h

/-- An octet that begins a character says which code points may come of it. -/
theorem lead_pending {b : UInt8} {p : Pending} (h : lead b = .pending p) :
    p.Sound ∧ ∀ v, p.Admits v →
      String.utf8EncodeChar (Char.ofNat v) = b :: tails (p.owed + 1) v := by
  unfold lead at h
  dsimp only at h
  -- a character alone, and a continuation or an overlong form
  split at h
  · cases h
  split at h
  · cases h
  -- two octets
  split at h
  · cases h
    exact ⟨⟨by simp, by simp⟩, fun v => encodeChar_of_admits_two (by omega) (by omega)⟩
  -- three: after 0xE0 not overlong, after 0xED no surrogate, and the rest
  split at h
  · cases h
    refine ⟨⟨by simp, by simp⟩, fun v => ?_⟩
    exact encodeChar_of_admits_three (by omega) (by omega) (by simp) (by omega)
  split at h
  · cases h
    refine ⟨⟨by simp, by simp⟩, fun v => ?_⟩
    exact encodeChar_of_admits_three (by omega) (by omega) (by omega) (by simp)
  split at h
  · cases h
    refine ⟨⟨by simp, by simp⟩, fun v => ?_⟩
    exact encodeChar_of_admits_three (by omega) (by omega) (by omega) (by omega)
  -- four: after 0xF0 not overlong, the rest, and after 0xF4 not beyond the last code point
  split at h
  · cases h
    refine ⟨⟨by simp, by simp⟩, fun v => ?_⟩
    exact encodeChar_of_admits_four (by omega) (by omega) (by simp) (by omega)
  split at h
  · cases h
    refine ⟨⟨by simp, by simp⟩, fun v => ?_⟩
    exact encodeChar_of_admits_four (by omega) (by omega) (by omega) (by omega)
  split at h
  · cases h
    refine ⟨⟨by simp, by simp⟩, fun v => ?_⟩
    exact encodeChar_of_admits_four (by omega) (by omega) (by omega) (by simp)
  · cases h

/-- An octet below `0x80` is a character by itself. -/
theorem lead_ascii {b : UInt8} (h : b.toNat ≤ 0x7F) : lead b = .char (Char.ofNat b.toNat) := by
  unfold lead
  exact if_pos h

section

variable {n : Nat}

/-- Seven bits are read from one octet. -/
theorem lead_one (h : n ≤ 0x7F) : lead (UInt8.ofNat n) = .char (Char.ofNat n) := by
  have hn : (UInt8.ofNat n).toNat = n := toNat_ofNat_lt (by omega)
  rw [lead_ascii (by omega), hn]

/-- The first octet of two asks for one more. -/
theorem lead_two (hlow : 0xC2 ≤ n) (hhigh : n ≤ 0xDF) :
    lead (UInt8.ofNat n) = .pending ⟨0, 0x80, 0xBF, n - 0xC0⟩ := by
  have hn : (UInt8.ofNat n).toNat = n := toNat_ofNat_lt (by omega)
  unfold lead
  simp only [hn]
  rw [if_neg (by omega), if_neg (by omega), if_pos hhigh]

/-- The first octet of three asks for two more. The next one is narrowed where the encoding would be
too long or stand for half a pair. -/
theorem lead_three (hlow : 0xE0 ≤ n) (hhigh : n ≤ 0xEF) :
    ∃ low high : UInt8, lead (UInt8.ofNat n) = .pending ⟨1, low, high, n - 0xE0⟩ ∧
      low.toNat ≤ (if n = 0xE0 then 0xA0 else 0x80) ∧
      (if n = 0xED then 0x9F else 0xBF) ≤ high.toNat := by
  have hn : (UInt8.ofNat n).toNat = n := toNat_ofNat_lt (by omega)
  unfold lead
  simp only [hn]
  rw [if_neg (by omega), if_neg (by omega), if_neg (by omega)]
  by_cases hfirst : n = 0xE0
  · rw [if_pos hfirst]
    exact ⟨_, _, rfl, by simp [hfirst], by simp [hfirst]⟩
  by_cases hsurrogate : n = 0xED
  · rw [if_neg hfirst, if_pos hsurrogate]
    exact ⟨_, _, rfl, by simp [hsurrogate], by simp [hsurrogate]⟩
  · rw [if_neg hfirst, if_neg hsurrogate, if_pos hhigh]
    exact ⟨_, _, rfl, by simp [hfirst], by simp [hsurrogate]⟩

/-- The first octet of four asks for three more. The next one is narrowed where the encoding would
be too long or stand for nothing. -/
theorem lead_four (hlow : 0xF0 ≤ n) (hhigh : n ≤ 0xF4) :
    ∃ low high : UInt8, lead (UInt8.ofNat n) = .pending ⟨2, low, high, n - 0xF0⟩ ∧
      low.toNat ≤ (if n = 0xF0 then 0x90 else 0x80) ∧
      (if n = 0xF4 then 0x8F else 0xBF) ≤ high.toNat := by
  have hn : (UInt8.ofNat n).toNat = n := toNat_ofNat_lt (by omega)
  unfold lead
  simp only [hn]
  rw [if_neg (by omega), if_neg (by omega), if_neg (by omega), if_neg (by omega),
    if_neg (by omega), if_neg (by omega)]
  by_cases hfirst : n = 0xF0
  · rw [if_pos hfirst]
    exact ⟨_, _, rfl, by simp [hfirst], by simp [hfirst]⟩
  by_cases hlast : n = 0xF4
  · rw [if_neg hfirst, if_neg (by omega), if_pos hlast]
    exact ⟨_, _, rfl, by simp [hlast], by simp [hlast]⟩
  · rw [if_neg hfirst, if_pos (by omega)]
    exact ⟨_, _, rfl, by simp [hfirst], by simp [hlast]⟩

end

/-- Every character begins with an octet that admits it. -/
theorem exists_lead (c : Char) :
    ∃ b, (lead b = .char c ∧ String.utf8EncodeChar c = [b]) ∨
      ∃ p, lead b = .pending p ∧ p.Admits c.toNat ∧
        String.utf8EncodeChar c = b :: tails (p.owed + 1) c.toNat := by
  obtain ⟨v, hv, rfl⟩ : ∃ v : Nat, v.isValidChar ∧ c = Char.ofNat v :=
    ⟨c.toNat, c.valid, (Char.ofNat_toNat c).symm⟩
  have hc : (Char.ofNat v).toNat = v := toNat_ofNat_of_valid hv
  rw [hc]
  unfold Nat.isValidChar at hv
  by_cases hone : v ≤ 0x7F
  · exact ⟨_, .inl ⟨lead_one hone, encodeChar_one hone⟩⟩
  by_cases htwo : v ≤ 0x7FF
  · refine ⟨_, .inr ⟨_, lead_two (n := 0xC0 + v / 64) (by omega) (by omega), ⟨?_, ?_, ?_⟩,
      encodeChar_two (by omega) htwo⟩⟩
    · simp
    · simp
    · simp; omega
  by_cases hthree : v ≤ 0xFFFF
  · obtain ⟨low, high, hlead, hlow, hhigh⟩ :=
      lead_three (n := 0xE0 + v / 4096) (by omega) (by omega)
    refine ⟨_, .inr ⟨_, hlead, ⟨?_, ?_, ?_⟩, encodeChar_three (by omega) hthree (by omega)⟩⟩
    · simp
    · simp; split at hlow <;> omega
    · simp; split at hhigh <;> omega
  · obtain ⟨low, high, hlead, hlow, hhigh⟩ :=
      lead_four (n := 0xF0 + v / 262144) (by omega) (by omega)
    refine ⟨_, .inr ⟨_, hlead, ⟨?_, ?_, ?_⟩, encodeChar_four (by omega) (by omega)⟩⟩
    · simp
    · simp; split at hlow <;> omega
    · simp; split at hhigh <;> omega

/-- Every octet but the first has its first bit set. -/
theorem le_of_mem_tails {n v : Nat} {b : UInt8} (h : b ∈ tails n v) : 0x80 ≤ b.toNat := by
  induction n with
  | zero => cases h
  | succ n ih =>
    rcases List.mem_cons.mp h with rfl | htail
    · rw [toNat_ofNat_lt (by omega)]; omega
    · exact ih htail

/-- An octet below `0x80` stands for its own character wherever it is written. -/
theorem eq_of_mem_encodeChar {c : Char} {b : UInt8} (hb : b ∈ String.utf8EncodeChar c)
    (hascii : b.toNat ≤ 0x7F) : c = Char.ofNat b.toNat := by
  have hchar := lead_ascii hascii
  obtain ⟨b', ⟨hlead, hc⟩ | ⟨p, hlead, -, hc⟩⟩ := exists_lead c
  · rw [hc, List.mem_singleton] at hb
    rw [hb] at hchar ⊢
    rw [hlead] at hchar
    exact Step.char.inj hchar
  · rw [hc] at hb
    rcases List.mem_cons.mp hb with rfl | htail
    · rw [hlead] at hchar
      cases hchar
    · have hle := le_of_mem_tails htail
      omega

/-! ## Further octets -/

namespace Pending

variable {p q : Pending} {b : UInt8} {c : Char} {v : Nat}

/-- The octet that a code point goes on with. -/
def nextOctet (p : Pending) (v : Nat) : UInt8 := UInt8.ofNat (0x80 + shifted p.owed v % 64)

/-- The next octet carries the next six bits. -/
theorem toNat_nextOctet (p : Pending) (v : Nat) :
    (p.nextOctet v).toNat = 0x80 + shifted p.owed v % 64 := toNat_ofNat_lt (by omega)

theorem tails_succ (p : Pending) (v : Nat) :
    tails (p.owed + 1) v = p.nextOctet v :: tails p.owed v := rfl

/-- An admitted code point is longer by one octet than what is read of it. -/
theorem Admits.bits_next (h : p.Admits v) :
    p.bits * 64 + ((p.nextOctet v).toNat - 0x80) = shifted p.owed v := by
  have hbits : shifted p.owed v / 64 = p.bits := h.bits
  rw [toNat_nextOctet]
  omega

/-- A pending character takes the octet that an admitted code point goes on with. -/
theorem Admits.push (h : p.Admits v) :
    (p.owed = 0 ∧ p.push (p.nextOctet v) = .char (Char.ofNat v)) ∨
      ∃ q, p.push (p.nextOctet v) = .pending q ∧ p.owed = q.owed + 1 ∧ q.Admits v := by
  have hin : p.low ≤ p.nextOctet v ∧ p.nextOctet v ≤ p.high := by
    rw [UInt8.le_iff_toNat_le, UInt8.le_iff_toNat_le, toNat_nextOctet]
    exact ⟨h.low, h.high⟩
  unfold Pending.push
  rw [if_pos hin, h.bits_next]
  cases howed : p.owed with
  | zero => exact .inl ⟨rfl, by simp⟩
  | succ n =>
    refine .inr ⟨_, rfl, rfl, rfl, ?_, ?_⟩
    · simp
    · simp; omega

/-- A character is complete when the octet is the last one of a code point that was admitted. -/
theorem Sound.of_push_char (hp : p.Sound) (h : p.push b = .char c) :
    ∃ v, p.Admits v ∧ p.owed = 0 ∧ b = p.nextOctet v ∧ c = Char.ofNat v := by
  unfold push at h
  split at h
  next hin =>
    rw [UInt8.le_iff_toNat_le, UInt8.le_iff_toNat_le] at hin
    split at h
    next howed =>
      have hc := Step.char.inj h
      have hlow := hp.low
      have hhigh := hp.high
      refine ⟨p.bits * 64 + (b.toNat - 0x80), ⟨?_, ?_, ?_⟩, howed, ?_, hc.symm⟩
      · simp [howed]; omega
      · simp [howed]; omega
      · simp [howed]; omega
      · apply UInt8.toNat_inj.mp
        rw [toNat_nextOctet]
        simp [howed]; omega
    next => cases h
  next => cases h

/-- What is admitted after an octet was admitted before it, and goes on with this octet. -/
theorem Sound.of_push_pending (hp : p.Sound) (h : p.push b = .pending q) :
    q.Sound ∧ p.owed = q.owed + 1 ∧ ∀ v, q.Admits v → p.Admits v ∧ b = p.nextOctet v := by
  unfold push at h
  split at h
  next hin =>
    rw [UInt8.le_iff_toNat_le, UInt8.le_iff_toNat_le] at hin
    split at h
    next => cases h
    next n howed =>
      cases h
      refine ⟨⟨by simp, by simp⟩, howed, fun v hv => ?_⟩
      have hlow := hp.low
      have hhigh := hp.high
      have hbits : shifted p.owed v = p.bits * 64 + (b.toNat - 0x80) := by
        rw [howed]
        exact hv.bits
      refine ⟨⟨?_, ?_, ?_⟩, ?_⟩
      · show shifted p.owed v / 64 = p.bits
        omega
      · omega
      · omega
      · apply UInt8.toNat_inj.mp
        rw [toNat_nextOctet]; omega
  next => cases h

end Pending

/-! ## Runs of the machine -/

/-- The octets that may come after a state of the machine, and the characters that they make. -/
def Follows : Option Pending → List UInt8 → List Char → Prop
  | none, bs, cs => bs = encode cs
  | some p, bs, cs =>
    ∃ v rest, p.Admits v ∧ bs = tails (p.owed + 1) v ++ encode rest ∧ cs = Char.ofNat v :: rest

/-- The same, when a step has been made. -/
def Step.Follows : Step → List UInt8 → List Char → Prop
  | .char c, bs, cs => ∃ rest, bs = encode rest ∧ cs = c :: rest
  | .pending p, bs, cs => Utf8.Follows (some p) bs cs
  | .refused, _, _ => False

variable {b : UInt8} {bs : List UInt8} {cs : List Char}

theorem encode_cons (c : Char) (cs : List Char) :
    encode (c :: cs) = String.utf8EncodeChar c ++ encode cs := List.flatMap_cons ..

theorem encode_append (cs ds : List Char) : encode (cs ++ ds) = encode cs ++ encode ds :=
  List.flatMap_append

/-- Between characters, a step takes the first octet off. -/
theorem follows_lead : Follows none (b :: bs) cs ↔ (lead b).Follows bs cs := by
  constructor
  · intro h
    cases cs with
    | nil => cases h
    | cons c rest =>
      have hoctets : b :: bs = String.utf8EncodeChar c ++ encode rest := h
      obtain ⟨b', ⟨hlead, hc⟩ | ⟨p, hlead, hp, hc⟩⟩ := exists_lead c
      · rw [hc] at hoctets
        obtain ⟨rfl, rfl⟩ := List.cons.inj hoctets
        rw [hlead]
        exact ⟨rest, rfl, rfl⟩
      · rw [hc] at hoctets
        obtain ⟨rfl, rfl⟩ := List.cons.inj hoctets
        rw [hlead]
        exact ⟨c.toNat, rest, hp, rfl, by rw [Char.ofNat_toNat]⟩
  · intro h
    cases hlead : lead b with
    | char c =>
      rw [hlead] at h
      obtain ⟨rest, rfl, rfl⟩ := h
      show b :: encode rest = encode (c :: rest)
      rw [encode_cons, lead_char hlead]
      rfl
    | pending p =>
      rw [hlead] at h
      obtain ⟨v, rest, hp, rfl, rfl⟩ := h
      show b :: (tails (p.owed + 1) v ++ encode rest) = encode (Char.ofNat v :: rest)
      rw [encode_cons, (lead_pending hlead).2 v hp]
      rfl
    | refused =>
      rw [hlead] at h
      exact h.elim

/-- In a pending character, a step takes the next octet off. -/
theorem follows_push {p : Pending} (hp : p.Sound) :
    Follows (some p) (b :: bs) cs ↔ (p.push b).Follows bs cs := by
  constructor
  · rintro ⟨v, rest, hv, hoctets, rfl⟩
    rw [p.tails_succ] at hoctets
    obtain ⟨rfl, rfl⟩ := List.cons.inj hoctets
    rcases hv.push with ⟨howed, hpush⟩ | ⟨q, hpush, howed, hq⟩
    · rw [hpush, howed]
      exact ⟨rest, rfl, rfl⟩
    · rw [hpush, howed]
      exact ⟨v, rest, hq, rfl, rfl⟩
  · intro h
    cases hpush : p.push b with
    | char c =>
      rw [hpush] at h
      obtain ⟨rest, rfl, rfl⟩ := h
      obtain ⟨v, hv, howed, rfl, rfl⟩ := hp.of_push_char hpush
      refine ⟨v, rest, hv, ?_, rfl⟩
      rw [p.tails_succ, howed]
      rfl
    | pending q =>
      rw [hpush] at h
      obtain ⟨v, rest, hq, rfl, rfl⟩ := h
      obtain ⟨-, howed, hadmits⟩ := hp.of_push_pending hpush
      obtain ⟨hv, rfl⟩ := hadmits v hq
      refine ⟨v, rest, hv, ?_, rfl⟩
      rw [p.tails_succ, howed]
      rfl
    | refused =>
      rw [hpush] at h
      exact h.elim

/-- A state that the machine can be in. -/
def Reachable (q : Option Pending) : Prop := ∀ p, q = some p → p.Sound

variable {q : Option Pending}

/-- An octet is decoded, and then the rest. -/
theorem follows_cons (hq : Reachable q) : Follows q (b :: bs) cs ↔ (step q b).Follows bs cs := by
  cases q with
  | none => exact follows_lead
  | some p => exact follows_push (hq p rfl)

theorem Reachable.step {p : Pending} (hq : Reachable q) (h : step q b = .pending p) :
    Reachable (some p) := by
  have hp : p.Sound := by
    cases q with
    | none => exact (lead_pending h).1
    | some p' => exact ((hq p' rfl).of_push_pending h).1
  intro p' hp'
  cases hp'
  exact hp

theorem reachable_none : Reachable none := by
  intro p hp
  cases hp

/-- From any state that it can be in, the machine reads what may follow and nothing else. -/
theorem decodeFrom?_eq_some_iff (hq : Reachable q) :
    decodeFrom? q bs = some cs ↔ Follows q bs cs := by
  induction bs generalizing q cs with
  | nil =>
    cases q with
    | none =>
      show some [] = some cs ↔ [] = encode cs
      cases cs with
      | nil => simp [encode]
      | cons c cs => simp [encode_cons, String.utf8EncodeChar_ne_nil]
    | some p =>
      constructor
      · intro h; cases h
      · rintro ⟨v, rest, -, hoctets, -⟩; cases hoctets
  | cons b bs ih =>
    rw [follows_cons hq, decodeFrom?]
    cases hstep : step q b with
    | char c =>
      simp only [Option.map_eq_some_iff, ih reachable_none]
      constructor
      · rintro ⟨rest, hrest, rfl⟩; exact ⟨rest, hrest, rfl⟩
      · rintro ⟨rest, hrest, rfl⟩; exact ⟨rest, hrest, rfl⟩
    | pending p => exact ih (hq.step hstep)
    | refused => simp [Step.Follows]

/-- **Strict reading is the inverse of writing.** Octets are read as the characters that are written
with them, and octets that nothing is written with are refused. -/
theorem decode?_eq_some_iff : decode? bs = some cs ↔ bs = encode cs :=
  decodeFrom?_eq_some_iff reachable_none

/-! ## The octets of a text -/

/-- The loop that lists the octets of a byte array puts them behind those that it has listed
already. -/
theorem toList_loop (bs : ByteArray) (i : Nat) (r : List UInt8) :
    ByteArray.toList.loop bs i r = r.reverse ++ bs.data.toList.drop i := by
  fun_induction ByteArray.toList.loop bs i r with
  | case1 i r h ih =>
    have hi : i < bs.data.toList.length := h
    have hget : bs.get! i = bs.data.toList[i] := getElem!_pos bs.data i h
    rw [ih, List.reverse_cons, List.append_assoc, List.drop_eq_getElem_cons hi, hget]
    rfl
  | case2 i r h =>
    have hi : bs.data.toList.length ≤ i := Nat.le_of_not_lt h
    rw [List.drop_eq_nil_of_le hi, List.append_nil]

/-- The octets of a text are those that its characters are written with. -/
theorem toList_toUTF8 (s : String) : s.toUTF8.toList = encode s.toList := by
  have hdata : s.toUTF8 = (encode s.toList).toByteArray := String.utf8Encode_toList.symm
  rw [hdata]
  unfold ByteArray.toList
  rw [toList_loop, List.toList_data_toByteArray]
  rfl

/-- The length of a text is the number of its octets. -/
theorem length_ofList (cs : List Char) : length (String.ofList cs) = (encode cs).length := by
  have hsize : length (String.ofList cs) = (encode cs).toByteArray.size := by
    show (String.ofList cs).toByteArray.size = _
    rw [String.toByteArray_ofList]
    rfl
  rw [hsize]
  exact List.size_toByteArray

/-- Text of ASCII characters takes one octet for each. -/
theorem length_encode_of_ascii {cs : List Char} (h : ∀ c ∈ cs, c.toNat ≤ 0x7F) :
    (encode cs).length = cs.length := by
  induction cs with
  | nil => rfl
  | cons c cs ih =>
    have hc := encodeChar_one (h c List.mem_cons_self)
    rw [Char.ofNat_toNat] at hc
    rw [encode_cons, hc, List.length_append, ih fun x hx => h x (List.mem_cons_of_mem _ hx),
      List.length_cons]
    exact Nat.add_comm _ _

end TemplateServer.Utf8
