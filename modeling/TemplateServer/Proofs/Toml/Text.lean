import Mathlib.Data.List.TakeWhile
import TemplateServer.Toml.Printer
import TemplateServer.Toml.Reader

/-!
# Texts are read as they were written

A text is written in one of four forms, and `string` reads each form back, whatever characters are
in the text (`string_writeText`). Where escapes are read, every character is written in one of the
three ways of `WrittenAs`, and every reader takes one character with each of them. What a form asks
of a text that is written without escapes is said by `Form.Fits`.

In a block quotes may stand in the text as they are. The quotes at its end then stand in one row
with those that close the block, and `closing?` tells them apart by their number: the induction over
a block ends at the first quote of that row, and not at the end of the text.
-/

namespace TemplateServer.Toml

variable {block : Bool} {row fuel n : Nat} {c quote : Char} {cs w inside rest : List Char}

/-- The next character is not a quote, which would go on with the row of those before it. -/
def NoQuote (rest : List Char) : Prop := ∀ c ∈ rest.head?, c ≠ '"' ∧ c ≠ '\x27'

@[simp] theorem Reading.prepend_ok (front cs rest : List Char) :
    Reading.prepend front (.ok (cs, rest)) = .ok (front ++ cs, rest) := rfl

/-- What is in front of the first character of another kind. -/
theorem takeWhile_append_of_head {p : Char → Bool} (hcs : ∀ c ∈ cs, p c = true)
    (hrest : ∀ c ∈ rest.head?, p c = false) : (cs ++ rest).takeWhile p = cs := by
  rw [List.takeWhile_append_of_pos hcs]
  cases rest with
  | nil => simp
  | cons c rest => simp [hrest c rfl]

theorem dropWhile_append_of_head {p : Char → Bool} (hcs : ∀ c ∈ cs, p c = true)
    (hrest : ∀ c ∈ rest.head?, p c = false) : (cs ++ rest).dropWhile p = rest := by
  rw [List.dropWhile_append_of_pos hcs]
  cases rest with
  | nil => rfl
  | cons c rest => simp [hrest c rfl]

/-- A character that is neither skipped between tokens nor begins a comment. -/
def isSolid (c : Char) : Bool := !isControl c && c != ' ' && c != '\t' && c != '#'

/-- A solid character begins nothing that is skipped. -/
theorem isSolid_iff :
    isSolid c = true ↔ isControl c = false ∧ c ≠ ' ' ∧ c ≠ '\t' ∧ c ≠ '#' := by
  simp [isSolid, and_assoc]

/-! ## Escapes -/

/-- An octet has one or two hexadecimal digits. -/
theorem hexDigits_of_lt (h : n < 256) :
    Text.hexDigits n =
      if n < 16 then [Text.hexDigit n] else [Text.hexDigit (n / 16), Text.hexDigit (n % 16)] := by
  rw [Text.hexDigits]
  split
  next => rfl
  next =>
    rw [Text.hexDigits, if_pos (by omega)]
    rfl

/-- Four digits stand for the character with that number. -/
theorem charOfDigits?_fourDigits (h : n < 128) :
    (fourDigits n).length = 4 ∧ charOfDigits? (fourDigits n) = some (Char.ofNat n) := by
  rw [fourDigits, hexDigits_of_lt (by omega)]
  revert n
  decide +kernel

/-- A character that is escaped by its number is read as itself. -/
theorem escape_fourDigits (h : n < 128) (rest : List Char) :
    escape ('u' :: (fourDigits n ++ rest)) = .ok (Char.ofNat n, rest) := by
  obtain ⟨hlength, hchar⟩ := charOfDigits?_fourDigits h
  have htake : (fourDigits n ++ rest).take 4 = fourDigits n := List.take_left' hlength
  have hdrop : (fourDigits n ++ rest).drop 4 = rest := List.drop_left' hlength
  simp only [escape, escapeDigits?, htake, hdrop, hchar, hlength, if_true]

/-- How a character is written where escapes are read. -/
inductive WrittenAs (block : Bool) (c : Char) : List Char → Prop
  /-- By itself. -/
  | plain : c ≠ '"' → c ≠ '\x5c' → isControl c = false → WrittenAs block c [c]
  /-- As the end of a line of a block. -/
  | lineEnd : block = true → c = '\n' → WrittenAs block c ['\n']
  /-- By a backslash, which does not end a line, and an escape that stands for it. -/
  | escape {l : Char} {ls : List Char} : isSolid l = true →
      (∀ rest, escape (l :: (ls ++ rest)) = .ok (c, rest)) → WrittenAs block c ('\x5c' :: l :: ls)

theorem WrittenAs.ne_nil (h : WrittenAs block c w) : w ≠ [] := by
  cases h <;> exact List.cons_ne_nil _ _

theorem WrittenAs.ofQuote : WrittenAs block '"' ['\x5c', '"'] :=
  .escape rfl fun _ => rfl

/-- Every character but the quote has its escape, or needs none. -/
theorem escapedChar_writtenAs (hquote : c ≠ '"') : WrittenAs block c (escapedChar block c) := by
  unfold escapedChar
  simp only [beq_iff_eq, Bool.or_eq_true, decide_eq_true_eq]
  split
  next h => exact h ▸ .escape rfl fun _ => rfl
  split
  next h => exact h ▸ .escape rfl fun _ => rfl
  split
  next h =>
    subst h
    split
    next hblock => exact .lineEnd hblock rfl
    next => exact .escape rfl fun _ => rfl
  split
  next h => exact h ▸ .escape rfl fun _ => rfl
  split
  next h => exact h ▸ .escape rfl fun _ => rfl
  split
  next h =>
    subst h
    exact .escape rfl fun _ => rfl
  next hslash =>
    split
    next hcontrol =>
      have hlow : c.toNat < 128 := by
        rcases hcontrol with h | rfl
        · omega
        · decide
      refine .escape rfl fun rest => ?_
      rw [escape_fourDigits hlow, Char.ofNat_toNat]
    next hcontrol =>
      refine .plain hquote hslash ?_
      obtain ⟨hlow, hdelete⟩ := not_or.mp hcontrol
      simp [isControl, hlow, hdelete]

/-- The next character of a text is a quote that needs no escape, or it is written on its own. -/
theorem escapedText_cons (block : Bool) (row : Nat) (c : Char) (cs : List Char) :
    (block = true ∧ row < 2 ∧ c = '"' ∧
      escapedText block row (c :: cs) = '"' :: escapedText block (row + 1) cs) ∨
    ∃ w, WrittenAs block c w ∧ escapedText block row (c :: cs) = w ++ escapedText block 0 cs := by
  rw [escapedText]
  by_cases hquote : c = '"'
  · subst hquote
    by_cases hplain : block = true ∧ row < 2
    · exact .inl ⟨hplain.1, hplain.2, rfl, by simp [hplain]⟩
    · refine .inr ⟨_, .ofQuote, ?_⟩
      rw [if_pos (beq_self_eq_true _), if_neg (by simpa using hplain)]
      rfl
  · exact .inr ⟨_, escapedChar_writtenAs hquote, by rw [if_neg (by simpa using hquote)]⟩

/-! ## Texts on one line -/

/-- A character is read as it was written, in a text of one line. -/
theorem basicTail_writtenAs (h : WrittenAs false c w) (rest : List Char) :
    basicTail (fuel + 1) (w ++ rest) = (basicTail fuel rest).prepend [c] := by
  cases h with
  | plain hquote hslash hcontrol => simp [basicTail, hquote, hslash, hcontrol]
  | lineEnd hblock => cases hblock
  | escape _ hescape => simp [basicTail, hescape]

/-- An escaped text of one line is read as it was written, up to the quote behind it. -/
theorem basicTail_escapedText (cs rest : List Char)
    (hfuel : (escapedText false 0 cs).length < fuel) :
    basicTail fuel (escapedText false 0 cs ++ '"' :: rest) = .ok (cs, rest) := by
  induction cs generalizing fuel with
  | nil =>
    obtain ⟨fuel, rfl⟩ := Nat.exists_eq_add_of_lt hfuel
    rfl
  | cons c cs ih =>
    obtain ⟨hblock, -⟩ | ⟨w, hw, heq⟩ := escapedText_cons false 0 c cs
    · cases hblock
    · rw [heq, List.length_append] at hfuel
      have hpos := List.length_pos_iff.mpr hw.ne_nil
      obtain ⟨fuel, rfl⟩ := Nat.exists_eq_add_one.mpr (Nat.zero_lt_of_lt hfuel)
      rw [heq, List.append_assoc, basicTail_writtenAs hw, ih (by omega)]
      rfl

theorem literalTail_append (rest : List Char)
    (h : ∀ c ∈ cs, c ≠ '\x27' ∧ isControl c = false) :
    literalTail (cs ++ '\x27' :: rest) = .ok (cs, rest) := by
  induction cs with
  | nil => rfl
  | cons c cs ih =>
    obtain ⟨hquote, hcontrol⟩ := h c List.mem_cons_self
    have htail := ih fun d hd => h d (List.mem_cons_of_mem c hd)
    simp [literalTail, hquote, hcontrol, htail]

/-! ## Rows of quotes -/

/-- A row that closes a block: up to two quotes of the text, and three others. -/
theorem closing?_end (cs : List Char) (hall : ∀ c ∈ cs, c = quote)
    (hshort : (cs.takeWhile (· == quote)).length ≤ 2) (hrest : rest.head? ≠ some quote) :
    closing? quote (cs ++ quote :: quote :: quote :: rest) = some (cs, rest) := by
  have hcs : cs = List.replicate cs.length quote := List.eq_replicate_of_mem hall
  rw [List.takeWhile_eq_self_iff.mpr fun c hc => beq_iff_eq.mpr (hall c hc)] at hshort
  have hrow : (cs ++ quote :: quote :: quote :: rest).takeWhile (· == quote) =
      cs ++ [quote, quote, quote] := by
    have hquotes : ∀ c ∈ cs ++ [quote, quote, quote], (c == quote) = true := by
      intro c hc
      rcases List.mem_append.mp hc with hc | hc
      · exact beq_iff_eq.mpr (hall c hc)
      · simpa using hc
    have hend : ∀ c ∈ rest.head?, (c == quote) = false := by
      intro c hc
      exact beq_eq_false_iff_ne.mpr fun h => hrest (by rw [hc, h])
    simpa using takeWhile_append_of_head hquotes hend
  have hinside : min (cs.length + 3 - 3) 2 = cs.length := by omega
  have hdrop : (cs ++ quote :: quote :: quote :: rest).drop (cs.length + 3) = rest := by
    rw [List.drop_append]
    simp
  unfold closing?
  rw [hrow, List.length_append, if_neg (by simp)]
  simp only [List.length_cons, List.length_nil, Nat.zero_add, Nat.reduceAdd, hinside, hdrop, ← hcs]

/-- A row of less than three quotes closes nothing. -/
theorem closing?_inside (hother : ¬ ∀ c ∈ cs, c = quote)
    (hshort : (cs.takeWhile (· == quote)).length ≤ 2) (tail : List Char) :
    closing? quote (cs ++ tail) = none := by
  have hrow : (cs ++ tail).takeWhile (· == quote) = cs.takeWhile (· == quote) := by
    rw [List.takeWhile_append, if_neg]
    intro hall
    have heq : cs.takeWhile (· == quote) = cs := (List.takeWhile_prefix _).eq_of_length hall
    exact hother fun c hc => beq_iff_eq.mp (List.takeWhile_eq_self_iff.mp heq c hc)
  unfold closing?
  rw [hrow, if_pos (by omega)]

/-- No quote, no row. -/
theorem closing?_of_ne (h : c ≠ quote) : closing? quote (c :: cs) = none := by
  simp [closing?, h]

/-- The row of quotes that goes on at the beginning of a text. -/
theorem takeWhile_le_longestRow (quote : Char) (row : Nat) (cs : List Char) :
    row + (cs.takeWhile (· == quote)).length ≤ longestRow quote row cs := by
  induction cs generalizing row with
  | nil => simp [longestRow]
  | cons c cs ih =>
    unfold longestRow
    by_cases hc : c = quote
    · have := ih (row + 1)
      simp only [hc, beq_self_eq_true, List.takeWhile_cons_of_pos, List.length_cons, if_true]
      omega
    · rw [List.takeWhile_cons_of_neg (by simpa using hc), if_neg (by simpa using hc)]
      exact Nat.le_max_left _ _

/-- Where no row of quotes has a length, there is no quote. -/
theorem not_mem_of_longestRow (h : longestRow quote row cs = 0) : quote ∉ cs := by
  induction cs generalizing row with
  | nil => exact List.not_mem_nil
  | cons c cs ih =>
    unfold longestRow at h
    split at h
    next =>
      have := takeWhile_le_longestRow quote (row + 1) cs
      omega
    next hc =>
      have hcs := ih (Nat.max_eq_zero_iff.mp h).2
      have hne : quote ≠ c := fun h => hc (beq_iff_eq.mpr h.symm)
      exact List.not_mem_cons_of_ne_of_not_mem hne hcs

/-- The rows behind a character are not longer, from some length of the row before on. -/
theorem longestRow_tail_le (h : longestRow quote row (c :: cs) ≤ n) :
    ∃ row', longestRow quote row' cs ≤ n := by
  unfold longestRow at h
  split at h
  next => exact ⟨row + 1, h⟩
  next => exact ⟨0, (Nat.max_le.mp h).2⟩

/-- With its escapes a text has less than three quotes in a row. -/
theorem takeWhile_escapedText_le (hrow : row ≤ 2) (cs : List Char) :
    row + ((escapedText true row cs).takeWhile (· == '"')).length ≤ 2 := by
  induction cs generalizing row with
  | nil => simpa [escapedText] using hrow
  | cons c cs ih =>
    obtain ⟨-, hlt, -, heq⟩ | ⟨w, hw, heq⟩ := escapedText_cons true row c cs
    · have := ih (show row + 1 ≤ 2 by omega)
      rw [heq, List.takeWhile_cons_of_pos (by rfl), List.length_cons]
      omega
    · rw [heq]
      cases hw with
      | plain hquote => simpa [hquote] using hrow
      | lineEnd => simpa using hrow
      | escape => simpa using hrow

/-- Only quotes that need no escape are written as quotes alone. -/
theorem eq_of_escapedText_quotes (h : ∀ c ∈ escapedText true row cs, c = '"') :
    escapedText true row cs = cs := by
  induction cs generalizing row with
  | nil => rfl
  | cons c cs ih =>
    obtain ⟨-, -, hc, heq⟩ | ⟨w, hw, heq⟩ := escapedText_cons true row c cs
    · rw [heq] at h ⊢
      rw [ih fun d hd => h d (List.mem_cons_of_mem _ hd), hc]
    · rw [heq] at h
      cases hw with
      | plain hquote => exact absurd (h c (by simp)) hquote
      | lineEnd => exact absurd (h '\n' (by simp)) (by decide)
      | escape => exact absurd (h '\x5c' (by simp)) (by decide)

/-! ## Texts over several lines -/

/-- A line ends in control characters only. -/
theorem afterNewline?_of_not_control (h : isControl c = false) :
    afterNewline? (c :: cs) = none := by
  unfold afterNewline?
  split
  next heq => cases heq; cases h
  next heq => cases heq; cases h
  next => rfl

/-- Three quotes close an escaped text of many lines. -/
theorem blockBasicTail_of_closing (h : closing? '"' cs = some (inside, rest)) :
    blockBasicTail (fuel + 1) cs = .ok (inside, rest) := by
  cases cs with
  | nil => cases h
  | cons c cs => simp [blockBasicTail, h]

theorem blockBasicTail_quote (h : closing? '"' ('"' :: cs) = none) :
    blockBasicTail (fuel + 1) ('"' :: cs) = (blockBasicTail fuel cs).prepend ['"'] := by
  simp [blockBasicTail, h, afterNewline?, isControl]

/-- A backslash before a solid character does not join two lines. -/
theorem skipContinuation?_of_isSolid (h : isSolid c = true) :
    skipContinuation? (c :: cs) = none := by
  obtain ⟨hcontrol, hblank, htab, -⟩ := isSolid_iff.mp h
  simp [skipContinuation?, skipBlanks, hblank, htab, afterNewline?_of_not_control hcontrol]

/-- A character is read as it was written, in a text of many lines. -/
theorem blockBasicTail_writtenAs (h : WrittenAs true c w) (rest : List Char) :
    blockBasicTail (fuel + 1) (w ++ rest) = (blockBasicTail fuel rest).prepend [c] := by
  cases h with
  | plain hquote hslash hcontrol =>
    simp [blockBasicTail, closing?_of_ne hquote, hslash, afterNewline?_of_not_control hcontrol,
      hcontrol]
  | lineEnd _ hc =>
    subst hc
    have hone : rest.length + 1 - rest.length = 1 := by omega
    simp [blockBasicTail, closing?_of_ne, afterNewline?, hone]
  | escape hsolid hescape =>
    simp [blockBasicTail, closing?_of_ne, skipContinuation?_of_isSolid hsolid, hescape]

/-- An escaped text of many lines is read as it was written, up to the quotes behind it. -/
theorem blockBasicTail_escapedText (hrow : row ≤ 2) (cs : List Char)
    (hrest : rest.head? ≠ some '"') (hfuel : (escapedText true row cs).length < fuel) :
    blockBasicTail fuel (escapedText true row cs ++ '"' :: '"' :: '"' :: rest) =
      .ok (cs, rest) := by
  induction cs generalizing row fuel with
  | nil =>
    obtain ⟨fuel, rfl⟩ := Nat.exists_eq_add_one.mpr (Nat.zero_lt_of_lt hfuel)
    exact blockBasicTail_of_closing (closing?_end [] (by simp) (by simp) hrest)
  | cons c cs ih =>
    obtain ⟨fuel, rfl⟩ := Nat.exists_eq_add_one.mpr (Nat.zero_lt_of_lt hfuel)
    have hshort := takeWhile_escapedText_le hrow (c :: cs)
    by_cases hall : ∀ d ∈ escapedText true row (c :: cs), d = '"'
    · have hself := eq_of_escapedText_quotes hall
      rw [hself] at hall hshort ⊢
      exact blockBasicTail_of_closing (closing?_end _ hall (by omega) hrest)
    · have hopen := closing?_inside hall (by omega) ('"' :: '"' :: '"' :: rest)
      obtain ⟨-, hlt, hc, heq⟩ | ⟨w, hw, heq⟩ := escapedText_cons true row c cs
      · rw [heq, List.length_cons] at hfuel
        rw [heq, List.cons_append] at hopen ⊢
        rw [blockBasicTail_quote hopen, ih (by omega) (by omega), hc]
        rfl
      · rw [heq, List.length_append] at hfuel
        have hpos := List.length_pos_iff.mpr hw.ne_nil
        rw [heq, List.append_assoc, blockBasicTail_writtenAs hw, ih (by omega) (by omega)]
        rfl

/-- Three quotes close a text of many lines without escapes. -/
theorem blockLiteralTail_of_closing (h : closing? '\x27' cs = some (inside, rest)) :
    blockLiteralTail (fuel + 1) cs = .ok (inside, rest) := by
  cases cs with
  | nil => cases h
  | cons c cs => simp [blockLiteralTail, h]

/-- Any other character belongs to the text. -/
theorem blockLiteralTail_cons (hopen : closing? '\x27' (c :: cs) = none)
    (h : isControl c = false ∨ c = '\n') :
    blockLiteralTail (fuel + 1) (c :: cs) = (blockLiteralTail fuel cs).prepend [c] := by
  rcases h with h | rfl
  · simp [blockLiteralTail, hopen, afterNewline?_of_not_control h, h]
  · have hone : cs.length + 1 - cs.length = 1 := by omega
    simp [blockLiteralTail, hopen, afterNewline?, hone]

/-- A text of many lines without escapes is read as it was written, if it has no three quotes in a
row. -/
theorem blockLiteralTail_append (hshort : longestRow '\x27' row cs ≤ 2)
    (hplain : ∀ c ∈ cs, isControl c = false ∨ c = '\n') (hrest : rest.head? ≠ some '\x27')
    (hfuel : cs.length < fuel) :
    blockLiteralTail fuel (cs ++ '\x27' :: '\x27' :: '\x27' :: rest) = .ok (cs, rest) := by
  induction cs generalizing row fuel with
  | nil =>
    obtain ⟨fuel, rfl⟩ := Nat.exists_eq_add_one.mpr hfuel
    exact blockLiteralTail_of_closing (closing?_end [] (by simp) (by simp) hrest)
  | cons c cs ih =>
    obtain ⟨fuel, rfl⟩ := Nat.exists_eq_add_one.mpr (Nat.zero_lt_of_lt hfuel)
    have hfront := takeWhile_le_longestRow '\x27' row (c :: cs)
    by_cases hall : ∀ d ∈ c :: cs, d = '\x27'
    · exact blockLiteralTail_of_closing (closing?_end _ hall (by omega) hrest)
    · have hopen := closing?_inside hall (by omega) ('\x27' :: '\x27' :: '\x27' :: rest)
      obtain ⟨row, htail⟩ := longestRow_tail_le hshort
      rw [List.cons_append] at hopen ⊢
      rw [blockLiteralTail_cons hopen (hplain c List.mem_cons_self),
        ih htail (fun d hd => hplain d (List.mem_cons_of_mem c hd)) (Nat.lt_of_succ_lt_succ hfuel)]
      rfl

/-! ## The four forms -/

/-- The line end after the opening quotes of a block is the one that the printer put there. -/
theorem skipFirstNewline_blockStart (h : '\n' ∉ cs → afterNewline? inside = none) :
    skipFirstNewline (blockStart cs ++ inside) = inside := by
  unfold skipFirstNewline blockStart
  by_cases hline : '\n' ∈ cs
  · simp [hline, afterNewline?]
  · simp [hline, h hline]

/-- An escaped text without line ends does not begin with one. -/
theorem afterNewline?_escapedText (h : '\n' ∉ cs) (rest : List Char) :
    afterNewline? (escapedText true row cs ++ '"' :: rest) = none := by
  cases cs with
  | nil => rfl
  | cons c cs =>
    obtain ⟨-, -, -, heq⟩ | ⟨w, hw, heq⟩ := escapedText_cons true row c cs
    · rw [heq]
      rfl
    · rw [heq]
      cases hw with
      | plain _ _ hcontrol => exact afterNewline?_of_not_control hcontrol
      | lineEnd _ hc => exact absurd (hc ▸ List.mem_cons_self) h
      | escape => rfl

/-- What a form asks of a text. -/
def Form.Fits (cs : List Char) : Form → Prop
  | basic | blockBasic => True
  | literal => ∀ c ∈ cs, c ≠ '\x27' ∧ isControl c = false
  | blockLiteral => (∀ c ∈ cs, isControl c = false ∨ c = '\n') ∧ longestRow '\x27' 0 cs ≤ 2

/-- A text said to have no control characters has none but ends of lines. -/
theorem isControl_of_traits (h : (Traits.ofText cs).controls = false) :
    ∀ c ∈ cs, isControl c = false ∨ c = '\n' := by
  intro c hc
  have hother := List.any_eq_false.mp h c hc
  by_cases hline : c = '\n'
  · exact .inr hline
  · exact .inl (by simpa [isControl, hline] using hother)

/-- The printer picks a form that fits. -/
theorem Form.fits_ofText (cs : List Char) : (Form.ofTraits (.ofText cs)).Fits cs := by
  unfold Form.ofTraits
  simp only [Bool.and_eq_true, Bool.not_eq_true', beq_iff_eq, decide_eq_true_eq]
  split
  next => trivial
  split
  next h =>
    obtain ⟨⟨hcontrols, hquotes⟩, hlines⟩ := h
    intro c hc
    have hline : c ≠ '\n' := by
      rintro rfl
      exact absurd (List.contains_iff_mem.mpr hc) (Bool.eq_false_iff.mp hlines)
    refine ⟨?_, (isControl_of_traits hcontrols c hc).resolve_right hline⟩
    rintro rfl
    exact not_mem_of_longestRow hquotes hc
  split
  next => trivial
  split
  next h => exact ⟨isControl_of_traits h.1, h.2⟩
  split
  next => trivial
  next => trivial

/-- A quote at the beginning that no two others follow opens a text of one line. -/
theorem string_basic (h : rest.take 2 ≠ ['"', '"']) :
    string ('"' :: rest) = basicTail (rest.length + 1) rest := by
  unfold string
  split
  next heq => cases heq; exact absurd rfl h
  next heq => cases heq; rfl
  next heq => cases heq
  next heq => cases heq
  next _ hother _ _ => exact absurd rfl (hother _)

/-- One quote that no two follow opens a text of one line. -/
theorem string_literal (h : rest.take 2 ≠ ['\x27', '\x27']) :
    string ('\x27' :: rest) = literalTail rest := by
  unfold string
  split
  next heq => cases heq
  next heq => cases heq
  next heq => cases heq; exact absurd rfl h
  next heq => cases heq; rfl
  next hother => exact absurd rfl (hother _)

/-- The quote that closes a text does not make a block of it, not even of the empty text. -/
theorem take_two_ne (hcs : cs.head? ≠ some quote) (hrest : rest.head? ≠ some quote) :
    (cs ++ quote :: rest).take 2 ≠ [quote, quote] := by
  cases cs with
  | nil =>
    cases rest with
    | nil => simp
    | cons c rest => simpa using hrest
  | cons c cs =>
    intro h
    exact hcs (congrArg some (List.cons.inj h).1)

/-- No quote stands in an escaped text without a backslash before it. -/
theorem head?_escapedText_ne (cs : List Char) : (escapedText false row cs).head? ≠ some '"' := by
  cases cs with
  | nil => simp [escapedText]
  | cons c cs =>
    obtain ⟨hblock, -⟩ | ⟨w, hw, heq⟩ := escapedText_cons false row c cs
    · cases hblock
    · rw [heq]
      cases hw with
      | plain hquote => simpa using hquote
      | lineEnd hblock => cases hblock
      | escape => simp

/-- A form is read back with every text that fits into it. -/
theorem string_write {form : Form} (hfits : form.Fits cs) (hrest : NoQuote rest) :
    string (form.write cs ++ rest) = .ok (cs, rest) := by
  -- a quote after an empty text would make its two delimiters the start of a block
  have hdouble : rest.head? ≠ some '"' := fun h => (hrest _ h).1 rfl
  have hsingle : rest.head? ≠ some '\x27' := fun h => (hrest _ h).2 rfl
  cases form with
  | basic =>
    have hwritten : Form.write .basic cs ++ rest =
        '"' :: (escapedText false 0 cs ++ '"' :: rest) := by
      simp [Form.write]
    rw [hwritten, string_basic (take_two_ne (head?_escapedText_ne cs) hdouble)]
    refine basicTail_escapedText cs rest ?_
    rw [List.length_append]
    omega
  | literal =>
    have hwritten : Form.write .literal cs ++ rest = '\x27' :: (cs ++ '\x27' :: rest) := by
      simp [Form.write]
    have hhead : cs.head? ≠ some '\x27' := fun h => (hfits _ (List.mem_of_head? h)).1 rfl
    rw [hwritten, string_literal (take_two_ne hhead hsingle)]
    exact literalTail_append rest hfits
  | blockBasic =>
    have hwritten : Form.write .blockBasic cs ++ rest = '"' :: '"' :: '"' ::
        (blockStart cs ++ (escapedText true 0 cs ++ '"' :: '"' :: '"' :: rest)) := by
      simp [Form.write]
    rw [hwritten, string, skipFirstNewline_blockStart fun h => afterNewline?_escapedText h _]
    refine blockBasicTail_escapedText (by omega) cs hdouble ?_
    rw [List.length_append, List.length_append]
    omega
  | blockLiteral =>
    have hwritten : Form.write .blockLiteral cs ++ rest = '\x27' :: '\x27' :: '\x27' ::
        (blockStart cs ++ (cs ++ '\x27' :: '\x27' :: '\x27' :: rest)) := by
      simp [Form.write]
    -- a line end right after the delimiter is dropped; a text without one does not begin so
    have hstart : '\n' ∉ cs →
        afterNewline? (cs ++ '\x27' :: '\x27' :: '\x27' :: rest) = none := by
      intro hline
      cases cs with
      | nil => rfl
      | cons c cs =>
        have hc := hfits.1 c List.mem_cons_self
        exact afterNewline?_of_not_control
          (hc.resolve_right fun h => hline (h ▸ List.mem_cons_self))
    rw [hwritten, string, skipFirstNewline_blockStart hstart]
    refine blockLiteralTail_append hfits.2 hfits.1 hsingle ?_
    rw [List.length_append, List.length_append]
    omega

/-- **A text is read as it was written**, whatever its characters are. -/
theorem string_writeText (s : String) (hrest : NoQuote rest) :
    string (writeText s ++ rest) = .ok (s.toList, rest) :=
  string_write (Form.fits_ofText s.toList) hrest

end TemplateServer.Toml
