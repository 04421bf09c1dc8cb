import TemplateServer.Proofs.Text.Utf8
import TemplateServer.Text.Percent

/-!
# Spellings of a text

A text can be percent-encoded in many ways: each character is kept or escaped, octet by octet, and
each hexadecimal digit is written in one case or the other. `Spells` relates a text to its
spellings. Undoing the encoding once leads from any of them to the text (`Spells.decodePercent`),
also where the text itself looks encoded.
-/

namespace TemplateServer.Text

/-! ## Escapes -/

def upperDigits : List Char := "0123456789ABCDEF".toList

def lowerDigits : List Char := "0123456789abcdef".toList

/-- A hexadecimal digit that writes a number, in either case. -/
def IsDigit (n : Nat) (c : Char) : Prop := upperDigits[n]? = some c ∨ lowerDigits[n]? = some c

instance (n : Nat) (c : Char) : Decidable (IsDigit n c) :=
  inferInstanceAs (Decidable (upperDigits[n]? = some c ∨ lowerDigits[n]? = some c))

/-- The ways of escaping octets: `%` and two digits for each. -/
inductive Escapes : List UInt8 → List Char → Prop
  | nil : Escapes [] []
  | cons {b : UInt8} {bs : List UInt8} {high low : Char} {cs : List Char}
      (hhigh : IsDigit (b.toNat / 16) high) (hlow : IsDigit (b.toNat % 16) low)
      (hrest : Escapes bs cs) : Escapes (b :: bs) ('%' :: high :: low :: cs)

/-- The ways of spelling a text in which some characters may be kept. -/
inductive Spells (isKept : Char → Bool) : List Char → List Char → Prop
  | nil : Spells isKept [] []
  | kept {c : Char} {cs spelled : List Char} (hkept : isKept c = true)
      (hrest : Spells isKept cs spelled) : Spells isKept (c :: cs) (c :: spelled)
  | escaped {c : Char} {cs escape spelled : List Char}
      (hescape : Escapes (String.utf8EncodeChar c) escape)
      (hrest : Spells isKept cs spelled) : Spells isKept (c :: cs) (escape ++ spelled)

/-- A character that is neither `%` nor a digit stands in no escape. -/
theorem Escapes.not_mem {bs : List UInt8} {cs : List Char} {c : Char} (h : Escapes bs cs)
    (hpercent : c ≠ '%') (hdigit : c ∉ upperDigits ++ lowerDigits) : c ∉ cs := by
  have hno {n : Nat} {x : Char} (hx : IsDigit n x) : c ≠ x := by
    rintro rfl
    rcases hx with hx | hx
    · exact hdigit (List.mem_append_left _ (List.mem_of_getElem? hx))
    · exact hdigit (List.mem_append_right _ (List.mem_of_getElem? hx))
  induction h with
  | nil => simp
  | cons hhigh hlow _ ih =>
    simp only [List.mem_cons, not_or]
    exact ⟨hpercent, hno hhigh, hno hlow, ih⟩

/-- Nor does it stand in a spelling, unless it is kept. -/
theorem Spells.not_mem {isKept : Char → Bool} {cs spelled : List Char} {c : Char}
    (h : Spells isKept cs spelled) (hkept : isKept c = false) (hpercent : c ≠ '%')
    (hdigit : c ∉ upperDigits ++ lowerDigits) : c ∉ spelled := by
  induction h with
  | nil => simp
  | @kept x cs spelled hx _ ih =>
    have hne : c ≠ x := by
      rintro rfl
      rw [hkept] at hx
      cases hx
    exact List.not_mem_cons_of_ne_of_not_mem hne ih
  | escaped hescape _ ih =>
    rw [List.mem_append, not_or]
    exact ⟨hescape.not_mem hpercent hdigit, ih⟩

/-- A digit is an octet by itself, and has the value that it writes. -/
theorem IsDigit.octet {n : Nat} {c : Char} (h : IsDigit n c) :
    ∃ b, String.utf8EncodeChar c = [b] ∧ hexValue? b = some (UInt8.ofNat n) := by
  have hall : ((List.range 16).all fun n =>
      (upperDigits[n]?.toList ++ lowerDigits[n]?.toList).all fun c =>
        String.utf8EncodeChar c == [UInt8.ofNat c.toNat] &&
          hexValue? (UInt8.ofNat c.toNat) == some (UInt8.ofNat n)) = true := by
    decide
  simp only [List.all_eq_true, List.mem_range, Bool.and_eq_true, beq_iff_eq] at hall
  have hn : n < 16 := by
    rcases h with h | h
    · exact (List.getElem?_eq_some_iff.mp h).1
    · exact (List.getElem?_eq_some_iff.mp h).1
  have hmem : c ∈ upperDigits[n]?.toList ++ lowerDigits[n]?.toList := by
    rcases h with h | h <;> simp [h]
  exact ⟨_, hall n hn c hmem⟩

/-- The two digits of an octet make the octet. -/
theorem hexOctet?_of_digits {b high low : UInt8}
    (hhigh : hexValue? high = some (UInt8.ofNat (b.toNat / 16)))
    (hlow : hexValue? low = some (UInt8.ofNat (b.toNat % 16))) : hexOctet? high low = some b := by
  have hb := b.toNat_lt
  have hvalue : UInt8.ofNat (b.toNat / 16) * 16 + UInt8.ofNat (b.toNat % 16) = b := by
    apply UInt8.toNat_inj.mp
    simp
    omega
  unfold hexOctet?
  rw [hhigh, hlow]
  exact congrArg some hvalue

/-! ## Undoing the encoding -/

theorem decodePercent_cons {b : UInt8} {bs : List UInt8} (hb : b ≠ 0x25) :
    decodePercent (b :: bs) = b :: decodePercent bs := by
  rw [decodePercent]
  intro high low bs' h
  exact absurd h hb

/-- Octets without `%` stand for themselves. -/
theorem decodePercent_append {bs rest : List UInt8} (h : 0x25 ∉ bs) :
    decodePercent (bs ++ rest) = bs ++ decodePercent rest := by
  induction bs with
  | nil => rfl
  | cons b bs ih =>
    rw [List.mem_cons, not_or] at h
    obtain ⟨hb, hbs⟩ := h
    rw [List.cons_append, decodePercent_cons (Ne.symm hb), ih hbs, List.cons_append]

/-- An escape stands for its octets. -/
theorem Escapes.decodePercent {bs rest : List UInt8} {cs : List Char} (h : Escapes bs cs) :
    Text.decodePercent (Utf8.encode cs ++ rest) = bs ++ Text.decodePercent rest := by
  induction h with
  | nil => rfl
  | @cons b bs high low cs hhigh hlow hrest ih =>
    obtain ⟨x, hx, hxvalue⟩ := hhigh.octet
    obtain ⟨y, hy, hyvalue⟩ := hlow.octet
    have hencode : Utf8.encode ('%' :: high :: low :: cs) = 0x25 :: x :: y :: Utf8.encode cs := by
      rw [Utf8.encode_cons, Utf8.encode_cons, Utf8.encode_cons, hx, hy]
      rfl
    rw [hencode, List.cons_append, List.cons_append, List.cons_append, Text.decodePercent,
      hexOctet?_of_digits hxvalue hyvalue]
    simp only [ih, List.cons_append]

/-- **Every spelling says its text.** Where no `%` is kept, undoing the encoding once is enough and
never too much. -/
theorem Spells.decodePercent {isKept : Char → Bool} {cs spelled : List Char}
    (hpercent : isKept '%' = false) (h : Spells isKept cs spelled) :
    Text.decodePercent (Utf8.encode spelled) = Utf8.encode cs := by
  induction h with
  | nil => rfl
  | @kept c cs spelled hkept hrest ih =>
    have hmem : 0x25 ∉ String.utf8EncodeChar c := by
      intro hmem
      have hc : c = '%' := Utf8.eq_of_mem_encodeChar hmem (by decide)
      rw [hc, hpercent] at hkept
      cases hkept
    rw [Utf8.encode_cons, Utf8.encode_cons, decodePercent_append hmem, ih]
  | escaped hescape hrest ih =>
    rw [Utf8.encode_append, hescape.decodePercent, ih, Utf8.encode_cons]

-- what looks encoded once it is decoded is left as it is
example : decodePercent (Utf8.encode "caf%C3%a9/100%2525".toList) =
    Utf8.encode "café/100%25".toList := by decide

/-! ## Escaping everything -/

/-- An octet as an escape, in upper case. -/
def escapeOctet (b : UInt8) : List Char :=
  ['%', upperDigits.getD (b.toNat / 16) '0', upperDigits.getD (b.toNat % 16) '0']

/-- A text in which every character is escaped. -/
def escapeAll (cs : List Char) : List Char := (Utf8.encode cs).flatMap escapeOctet

theorem isDigit_upper {n : Nat} (h : n < 16) : IsDigit n (upperDigits.getD n '0') := by
  have hlength : n < upperDigits.length := h
  left
  rw [List.getD_eq_getElem?_getD, List.getElem?_eq_getElem hlength]
  rfl

theorem escapes_flatMap (bs : List UInt8) : Escapes bs (bs.flatMap escapeOctet) := by
  induction bs with
  | nil => exact .nil
  | cons b bs ih =>
    have hb := b.toNat_lt
    exact .cons (isDigit_upper (by omega)) (isDigit_upper (by omega)) ih

/-- Every text has a spelling that keeps nothing. -/
theorem spells_escapeAll (isKept : Char → Bool) (cs : List Char) :
    Spells isKept cs (escapeAll cs) := by
  induction cs with
  | nil => exact .nil
  | cons c cs ih =>
    unfold escapeAll
    rw [Utf8.encode_cons, List.flatMap_append]
    exact .escaped (escapes_flatMap _) ih

theorem mem_escapeAll {cs : List Char} {c : Char} (h : c ∈ escapeAll cs) :
    c = '%' ∨ c ∈ upperDigits := by
  have hdigit (n : Nat) (hn : n < 16) : upperDigits.getD n '0' ∈ upperDigits := by
    have hlength : n < upperDigits.length := hn
    rw [List.getD_eq_getElem?_getD, List.getElem?_eq_getElem hlength]
    exact List.getElem_mem hlength
  obtain ⟨b, -, hb⟩ := List.mem_flatMap.mp h
  have hlt := b.toNat_lt
  simp only [escapeOctet, List.mem_cons, List.not_mem_nil, or_false] at hb
  rcases hb with rfl | rfl | rfl
  · exact .inl rfl
  · exact .inr (hdigit _ (by omega))
  · exact .inr (hdigit _ (by omega))

theorem length_escapeAll (cs : List Char) :
    (escapeAll cs).length = 3 * (Utf8.encode cs).length := by
  unfold escapeAll
  induction Utf8.encode cs with
  | nil => rfl
  | cons b bs ih =>
    rw [List.flatMap_cons, List.length_append, ih, List.length_cons]
    show 3 + 3 * bs.length = 3 * (bs.length + 1)
    omega

end TemplateServer.Text
