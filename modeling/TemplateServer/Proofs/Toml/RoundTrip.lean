import Mathlib.Data.List.Basic
import TemplateServer.Proofs.Text.Pieces
import TemplateServer.Proofs.Toml.Text

/-!
# Documents are read as they were written

`read_write`: a document that is written and read again is the same document, with its settings in
the same order. Every part is read back in front of any rest that it can stand before: a text before
all but a quote, a value before what ends a value (`Stop`), a setting before the next line. A
document asks three things for that, which are said by `Plain`: its keys need no quotes, no two are
the same, and its integers have 64 bits.
-/

namespace TemplateServer.Toml

variable {n : Int} {m fuel : Nat} {c : Char} {s : String} {v : Value} {ss : List String}
  {cs word more rest : List Char} {before document : Document}

/-- What stands after a value: the end of a line, a comma, or the bracket that closes a list. -/
def Stop (rest : List Char) : Prop := ∀ c ∈ rest.head?, c = '\n' ∨ c = ',' ∨ c = ']'

theorem Stop.lineEnd : Stop ('\n' :: rest) := fun _ hc => .inl (Option.some.inj hc).symm

theorem Stop.comma : Stop (',' :: rest) := fun _ hc => .inr (.inl (Option.some.inj hc).symm)

theorem Stop.bracket : Stop (']' :: rest) := fun _ hc => .inr (.inr (Option.some.inj hc).symm)

/-- What stops a value is no quote. -/
theorem Stop.noQuote (h : Stop rest) : NoQuote rest := by
  intro c hc
  rcases h c hc with rfl | rfl | rfl <;> decide

/-- No character in front is skipped between tokens. -/
def Solid (cs : List Char) : Prop := ∀ c ∈ cs.head?, isSolid c = true

theorem Solid.cons (h : isSolid c = true) : Solid (c :: cs) := by
  intro _ hd
  obtain rfl := Option.some.inj hd
  exact h

theorem Solid.comma : Solid (',' :: rest) := .cons rfl

theorem Solid.bracket : Solid (']' :: rest) := .cons rfl

/-- There are no blanks in front of what is solid. -/
theorem skipBlanks_solid (h : Solid cs) : skipBlanks cs = cs := by
  cases cs with
  | nil => rfl
  | cons c cs =>
    obtain ⟨-, hblank, htab, -⟩ := isSolid_iff.mp (h c rfl)
    simp [skipBlanks, hblank, htab]

/-- No comment begins with what is solid. -/
theorem skipComment_solid (h : Solid cs) : skipComment cs = cs := by
  unfold skipComment
  split
  next => cases h '#' rfl
  next => rfl

theorem afterNewline?_solid (h : Solid cs) : afterNewline? cs = none := by
  cases cs with
  | nil => rfl
  | cons c cs => exact afterNewline?_of_not_control (isSolid_iff.mp (h c rfl)).1

theorem skipLines_solid (h : Solid cs) (fuel : Nat) : skipLines fuel cs = cs := by
  cases fuel with
  | zero => rfl
  | succ fuel =>
    simp [skipLines, skipBlanks_solid h, skipComment_solid h, afterNewline?_solid h]

/-- The rest of a line and the blanks in front of what stands in the next one are skipped. -/
theorem skipLines_lineEnd (blanks : List Char) (hblanks : ∀ c ∈ blanks, c = ' ') (h : Solid cs)
    (fuel : Nat) : skipLines (fuel + 2) ('\n' :: (blanks ++ cs)) = cs := by
  have hskip : skipBlanks (blanks ++ cs) = cs := by
    unfold skipBlanks
    rw [List.dropWhile_append_of_pos fun c hc => by simp [hblanks c hc]]
    exact skipBlanks_solid h
  have hfirst : skipLines (fuel + 2) ('\n' :: (blanks ++ cs)) =
      skipLines (fuel + 1) (blanks ++ cs) := rfl
  rw [hfirst]
  simp [skipLines, hskip, skipComment_solid h, afterNewline?_solid h]

/-! ## Integers -/

/-- The value of a digit is its distance from the zero. -/
theorem digitValue?_of_isDigit (h : c.isDigit = true) :
    digitValue? 10 c = some (c.toNat - '0'.toNat) := by
  have hrange : 0x30 ≤ c.toNat ∧ c.toNat ≤ 0x39 := Char.isDigit_iff_toNat.mp h
  have hlt : c.toNat - 0x30 < 10 := by omega
  simp [digitValue?, hrange, hlt]

/-- Digits are read as the core library reads them. -/
theorem numberOfDigits?_eq (h : ∀ c ∈ cs, c.isDigit = true) :
    numberOfDigits? 10 cs = some (Nat.ofDigitChars 10 cs 0) := by
  unfold numberOfDigits?
  generalize 0 = start
  induction cs generalizing start with
  | nil => rfl
  | cons c cs ih =>
    have hdigit := digitValue?_of_isDigit (h c List.mem_cons_self)
    rw [Nat.ofDigitChars_cons, List.foldlM_cons, hdigit, Nat.mul_comm 10 start]
    exact ih (fun d hd => h d (List.mem_cons_of_mem c hd)) _

/-- A number is written in digits. -/
theorem isDigit_of_mem_toDigits (h : c ∈ Nat.toDigits 10 m) : c.isDigit = true :=
  Nat.isDigit_of_mem_toDigits (by omega) (by omega) h

/-- A number other than zero has no leading zeros. -/
theorem head?_toDigits (h : 0 < m) : (Nat.toDigits 10 m).head? ≠ some '0' := by
  induction m using Nat.strongRecOn with
  | _ m ih =>
    rw [Nat.toDigits_eq_if (by omega)]
    split
    next =>
      intro hzero
      have := Nat.digitChar_eq_zero.mp (Option.some.inj hzero)
      omega
    next =>
      rw [List.head?_append_of_ne_nil _ Nat.toDigits_ne_nil]
      exact ih (m / 10) (by omega) (by omega)

/-- A number that is written is read as itself. -/
theorem decimal?_toDigits (m : Nat) : decimal? (Nat.toDigits 10 m) = some m := by
  rcases Nat.eq_zero_or_pos m with rfl | hm
  · rfl
  · have hhead := head?_toDigits hm
    have hgrouped : groupedDigits? 10 (Nat.toDigits 10 m) = some m := by
      have hpieces : Text.pieces (· == '_') (Nat.toDigits 10 m) = [Nat.toDigits 10 m] := by
        refine Text.pieces_eq_singleton fun c hc => ?_
        rw [beq_eq_false_iff_ne]
        rintro rfl
        cases isDigit_of_mem_toDigits hc
      unfold groupedDigits?
      rw [hpieces]
      simp [numberOfDigits?_eq fun c hc => isDigit_of_mem_toDigits hc,
        Nat.ofDigitChars_toDigits]
    unfold decimal?
    split
    next heq => rw [heq] at hhead; exact absurd rfl hhead
    next heq => rw [heq] at hhead; exact absurd rfl hhead
    next => exact hgrouped

/-- Digits alone are a decimal number. -/
theorem integer?_of_digits (h : ∀ c ∈ cs, c.isDigit = true) (hvalue : decimal? cs = some m)
    (hhigh : (m : Int) ≤ maxInteger) : integer? cs = some (m : Int) := by
  have hlow : minInteger ≤ (m : Int) := by unfold minInteger; omega
  unfold integer?
  split
  next => exact absurd (h 'x' (by simp)) (by decide)
  next => exact absurd (h 'o' (by simp)) (by decide)
  next => exact absurd (h 'b' (by simp)) (by decide)
  next => exact absurd (h '+' (by simp)) (by decide)
  next => exact absurd (h '-' (by simp)) (by decide)
  next => simp [hvalue, hlow, hhigh]

/-- Digits after a minus are a negative number. -/
theorem integer?_of_minus (hvalue : decimal? cs = some m) (hlow : minInteger ≤ -(m : Int)) :
    integer? ('-' :: cs) = some (-(m : Int)) := by
  have hhigh : -(m : Int) ≤ maxInteger := by unfold maxInteger; omega
  simp [integer?, hvalue, hlow, hhigh]

/-- An integer that is not negative is written without a sign. -/
theorem toList_toString_ofNat (m : Nat) : (toString (Int.ofNat m)).toList = Nat.toDigits 10 m :=
  Nat.toList_repr

/-- A negative integer is written with a minus in front. -/
theorem toList_toString_negSucc (m : Nat) :
    (toString (Int.negSucc m)).toList = '-' :: Nat.toDigits 10 (m + 1) := by
  simp [toString, Int.repr, Nat.toList_repr]

/-- An integer that fits is read as itself. -/
theorem integer?_toString (hlow : minInteger ≤ n) (hhigh : n ≤ maxInteger) :
    integer? (toString n).toList = some n := by
  cases n with
  | ofNat m =>
    rw [toList_toString_ofNat]
    exact integer?_of_digits (fun c hc => isDigit_of_mem_toDigits hc) (decimal?_toDigits m) hhigh
  | negSucc m =>
    have hneg : Int.negSucc m = -((m + 1 : Nat) : Int) := Int.negSucc_eq m
    rw [toList_toString_negSucc]
    rw [hneg] at hlow ⊢
    exact integer?_of_minus (decimal?_toDigits (m + 1)) hlow

theorem toList_toString_ne_nil (n : Int) : (toString n).toList ≠ [] := by
  cases n with
  | ofNat m =>
    rw [toList_toString_ofNat]
    exact Nat.toDigits_ne_nil
  | negSucc m =>
    rw [toList_toString_negSucc]
    exact List.cons_ne_nil _ _

/-- An integer is written in characters that can stand in a key, so it is one word. -/
theorem isBareKeyChar_of_mem_toString (h : c ∈ (toString n).toList) : isBareKeyChar c = true := by
  have hdigit : ∀ {m : Nat}, c ∈ Nat.toDigits 10 m → isBareKeyChar c = true := by
    intro m hc
    simp [isBareKeyChar, Char.isAlphanum, isDigit_of_mem_toDigits hc]
  cases n with
  | ofNat m =>
    rw [toList_toString_ofNat] at h
    exact hdigit h
  | negSucc m =>
    rw [toList_toString_negSucc] at h
    rcases List.mem_cons.mp h with rfl | h
    · rfl
    · exact hdigit h

/-! ## Values -/

/-- What a value must be to be written. -/
def Value.Fits : Value → Prop
  | integer n => minInteger ≤ n ∧ n ≤ maxInteger
  | _ => True

/-- A text is written with a quote in front. -/
theorem writeText_cons (s : String) :
    ∃ quote cs, writeText s = quote :: cs ∧ (quote = '"' ∨ quote = '\x27') := by
  unfold writeText
  cases Form.ofTraits (.ofText s.toList) with
  | basic => exact ⟨'"', _, rfl, .inl rfl⟩
  | literal => exact ⟨'\x27', _, rfl, .inr rfl⟩
  | blockBasic => exact ⟨'"', _, rfl, .inl rfl⟩
  | blockLiteral => exact ⟨'\x27', _, rfl, .inr rfl⟩

theorem solid_writeText (s : String) (rest : List Char) : Solid (writeText s ++ rest) := by
  obtain ⟨quote, cs, hwritten, hquote⟩ := writeText_cons s
  rw [hwritten]
  rcases hquote with rfl | rfl
  · exact .cons rfl
  · exact .cons rfl

/-- A text is read as it was written. -/
theorem value_text (s : String) (hrest : Stop rest) :
    value (writeText s ++ rest) = .ok (.text s, rest) := by
  have hread := string_writeText s hrest.noQuote
  obtain ⟨quote, cs, hwritten, hquote⟩ := writeText_cons s
  rw [hwritten, List.cons_append] at hread ⊢
  rcases hquote with rfl | rfl <;> simp [value, hread]

/-- What a word stands for. -/
def wordValue? (word : List Char) : Option Value :=
  if word == "true".toList then some (.flag true)
  else if word == "false".toList then some (.flag false)
  else (integer? word).map .integer

/-- A word is read as what it stands for. -/
theorem value_word (hne : word ≠ []) (hword : ∀ c ∈ word, isBareKeyChar c = true)
    (hvalue : wordValue? word = some v) (hrest : Stop rest) :
    value (word ++ rest) = .ok (v, rest) := by
  have hpart : ∀ c ∈ word, (isBareKeyChar c || c == '+') = true := by
    intro c hc
    rw [hword c hc, Bool.true_or]
  have hend : ∀ c ∈ rest.head?, (isBareKeyChar c || c == '+') = false := by
    intro c hc
    rcases hrest c hc with rfl | rfl | rfl <;> decide
  have htake := takeWhile_append_of_head hpart hend
  have hdrop := dropWhile_append_of_head hpart hend
  obtain ⟨c, cs, rfl⟩ := List.exists_cons_of_ne_nil hne
  have hc := hword c List.mem_cons_self
  rw [List.cons_append] at htake hdrop ⊢
  unfold value
  split
  next heq => cases heq; cases hc
  next heq =>
    cases heq
    have hquote : ¬ (c == '"' || c == '\x27') = true := by
      rw [Bool.or_eq_true, beq_iff_eq, beq_iff_eq]
      rintro (rfl | rfl) <;> cases hc
    rw [if_neg hquote]
    simp only [htake, hdrop]
    unfold wordValue? at hvalue
    split at hvalue
    next htrue => rw [if_pos htrue, Option.some.inj hvalue]
    next htrue =>
      rw [if_neg htrue]
      split at hvalue
      next hfalse => rw [if_pos hfalse, Option.some.inj hvalue]
      next hfalse =>
        obtain ⟨n, hn, rfl⟩ := Option.map_eq_some_iff.mp hvalue
        simp only [if_neg hfalse, hn]
  next heq => cases heq

/-- A flag is read as it was written. -/
theorem value_flag (b : Bool) (hrest : Stop rest) :
    value ((Value.flag b).write ++ rest) = .ok (.flag b, rest) := by
  have hbare : ∀ word : List Char, word.all isBareKeyChar = true →
      ∀ c ∈ word, isBareKeyChar c = true :=
    fun _ => List.all_eq_true.mp
  cases b with
  | false => exact value_word (by decide) (hbare "false".toList rfl) rfl hrest
  | true => exact value_word (by decide) (hbare "true".toList rfl) rfl hrest

/-- An integer that fits is read as it was written. -/
theorem value_integer (hlow : minInteger ≤ n) (hhigh : n ≤ maxInteger) (hrest : Stop rest) :
    value ((Value.integer n).write ++ rest) = .ok (.integer n, rest) := by
  have hread := integer?_toString hlow hhigh
  -- no word that is read as an integer is a flag
  have hother : ∀ {word : List Char}, integer? word = none → (toString n).toList ≠ word := by
    rintro word hnone rfl
    rw [hnone] at hread
    cases hread
  have htrue := hother (show integer? "true".toList = none by decide)
  have hfalse := hother (show integer? "false".toList = none by decide)
  have hvalue : wordValue? (toString n).toList = some (.integer n) := by
    rw [wordValue?, if_neg (by simpa using htrue), if_neg (by simpa using hfalse), hread,
      Option.map_some]
  exact value_word (toList_toString_ne_nil n) (fun c hc => isBareKeyChar_of_mem_toString hc)
    hvalue hrest

/-! ### Lists of texts -/

/-- A text of a list. The list ends after it, or goes on after a comma. -/
theorem textsTail_text (hskip : skipLines cs.length cs = writeText s ++ c :: more)
    (hnext : c = ']' ∧ ss = [] ∧ rest = more ∨ c = ',' ∧ textsTail fuel more = .ok (ss, rest)) :
    textsTail (fuel + 1) cs = .ok (s :: ss, rest) := by
  have hstop : Stop (c :: more) := by
    rcases hnext with ⟨rfl, -, -⟩ | ⟨rfl, -⟩
    · exact .bracket
    · exact .comma
  have hread := string_writeText s hstop.noQuote
  obtain ⟨quote, tail, hwritten, hquote⟩ := writeText_cons s
  rw [hwritten, List.cons_append] at hread hskip
  rw [textsTail, hskip]
  split
  next heq => cases heq; simp at hquote
  next =>
    rcases hnext with ⟨rfl, rfl, rfl⟩ | ⟨rfl, hmore⟩
    · simp only [hread, skipLines_solid Solid.bracket, String.ofList_toList]
    · simp only [hread, skipLines_solid Solid.comma, hmore, String.ofList_toList]

/-- A text on a line of a list. -/
def textLine (s : String) : List Char := "    ".toList ++ writeText s ++ [',', '\n']

/-- A list with a line for each text. -/
theorem textsTail_lines (ss : List String) (hfuel : ss.length < fuel) (rest : List Char) :
    textsTail fuel ('\n' :: (ss.flatMap textLine ++ ']' :: rest)) = .ok (ss, rest) := by
  induction ss generalizing fuel with
  | nil =>
    obtain ⟨fuel, rfl⟩ := Nat.exists_eq_add_one.mpr hfuel
    have hskip : skipLines (rest.length + 2) ('\n' :: ']' :: rest) = ']' :: rest :=
      skipLines_lineEnd [] (by simp) Solid.bracket _
    simp [textsTail, hskip]
  | cons s ss ih =>
    obtain ⟨fuel, rfl⟩ := Nat.exists_eq_add_one.mpr (Nat.zero_lt_of_lt hfuel)
    have hlines := ih (Nat.lt_of_succ_lt_succ hfuel)
    have hwritten : '\n' :: ((s :: ss).flatMap textLine ++ ']' :: rest) =
        '\n' :: ("    ".toList ++
          (writeText s ++ ',' :: '\n' :: (ss.flatMap textLine ++ ']' :: rest))) := by
      simp [textLine]
    have hblanks : ∀ c ∈ "    ".toList, c = ' ' := fun c hc =>
      List.eq_of_mem_replicate (show c ∈ List.replicate 4 ' ' from hc)
    rw [hwritten]
    exact textsTail_text (skipLines_lineEnd _ hblanks (solid_writeText s _) _)
      (.inr ⟨rfl, hlines⟩)

/-- Every element of a list takes at least one character, so the length of what is written is fuel
enough. -/
theorem length_le_flatMap {α : Type} {f : α → List Char} (h : ∀ x, f x ≠ []) (xs : List α) :
    xs.length ≤ (xs.flatMap f).length := by
  induction xs with
  | nil => exact Nat.le_refl 0
  | cons x xs ih =>
    have hpos := List.length_pos_iff.mpr (h x)
    rw [List.flatMap_cons, List.length_append, List.length_cons]
    omega

/-- A list of texts is read as it was written: in one line if there is at most one text, else with a
line for each. -/
theorem value_texts (ss : List String) (rest : List Char) :
    value (writeTexts ss ++ rest) = .ok (.texts ss, rest) := by
  match ss with
  | [] =>
    have hskip : skipLines (rest.length + 1) (']' :: rest) = ']' :: rest :=
      skipLines_solid Solid.bracket _
    simp [writeTexts, value, textsTail, hskip]
  | [s] =>
    have hwritten : writeTexts [s] ++ rest = '[' :: (writeText s ++ ']' :: rest) := by
      simp [writeTexts]
    have htexts : ∀ fuel, textsTail (fuel + 1) (writeText s ++ ']' :: rest) = .ok ([s], rest) :=
      fun _ => textsTail_text (skipLines_solid (solid_writeText s _) _) (.inl ⟨rfl, rfl, rfl⟩)
    rw [hwritten, value, htexts]
  | s :: t :: ss =>
    have hwritten : writeTexts (s :: t :: ss) =
        '[' :: '\n' :: (s :: t :: ss).flatMap textLine ++ [']'] := rfl
    have hlength := length_le_flatMap (f := textLine) (fun _ => List.cons_ne_nil _ _) (s :: t :: ss)
    rw [hwritten, List.append_assoc]
    simp only [List.cons_append, List.nil_append, value]
    rw [textsTail_lines]
    simp only [List.length_cons, List.length_append] at hlength ⊢
    omega

/-- A value is read as it was written. -/
theorem value_write (hfits : v.Fits) (hrest : Stop rest) :
    value (v.write ++ rest) = .ok (v, rest) := by
  cases v with
  | text s => exact value_text s hrest
  | integer n => exact value_integer hfits.1 hfits.2 hrest
  | flag b => exact value_flag b hrest
  | texts ss => exact value_texts ss rest

/-! ## Documents -/

/-- A key that can be written without quotes. -/
def IsBareKey (name : String) : Prop := name ≠ "" ∧ ∀ c ∈ name.toList, isBareKeyChar c = true

/-- A document that can be written. -/
structure Plain (document : Document) : Prop where
  bare : ∀ e ∈ document, IsBareKey e.1
  distinct : (document.map Prod.fst).Nodup
  fits : ∀ e ∈ document, e.2.Fits

/-- Some of the settings of a document that can be written can be written. -/
theorem Plain.filter (h : Plain document) (p : String × Value → Bool) :
    Plain (document.filter p) where
  bare e he := h.bare e (List.mem_of_mem_filter he)
  distinct := h.distinct.sublist (List.filter_sublist.map Prod.fst)
  fits e he := h.fits e (List.mem_of_mem_filter he)

/-- A setting as it is written. -/
def settingLine (e : String × Value) : List Char :=
  e.1.toList ++ " = ".toList ++ e.2.write ++ ['\n']

/-- No character of a key is a control character. -/
theorem isControl_of_isBareKeyChar (h : isBareKeyChar c = true) : isControl c = false := by
  have hascii : ∀ n < 128, isControl (Char.ofNat n) = true →
      isBareKeyChar (Char.ofNat n) = false := by
    decide +kernel
  by_contra hcontrol
  rw [Bool.not_eq_false] at hcontrol
  have hlow : c.toNat < 128 := by
    rcases Bool.or_eq_true_iff.mp hcontrol with hlow | hdelete
    · have := of_decide_eq_true (Bool.and_eq_true_iff.mp hlow).1
      omega
    · rw [beq_iff_eq.mp hdelete]
      decide
  have hother := hascii c.toNat hlow
  rw [Char.ofNat_toNat, h] at hother
  cases hother hcontrol

/-- Nothing is skipped in front of a key. -/
theorem Solid.bareKeyChar (h : isBareKeyChar c = true) : Solid (c :: cs) := by
  refine .cons (isSolid_iff.mpr ⟨isControl_of_isBareKeyChar h, ?_, ?_, ?_⟩)
  · rintro rfl; cases h
  · rintro rfl; cases h
  · rintro rfl; cases h

/-- Nothing is skipped in front of a value. -/
theorem solid_write (v : Value) (rest : List Char) : Solid (v.write ++ rest) := by
  cases v with
  | text s => exact solid_writeText s rest
  | integer n =>
    obtain ⟨c, cs, hwritten⟩ := List.exists_cons_of_ne_nil (toList_toString_ne_nil n)
    have hc : c ∈ (toString n).toList := hwritten ▸ List.mem_cons_self
    rw [Value.write, hwritten]
    exact .bareKeyChar (isBareKeyChar_of_mem_toString hc)
  | flag b =>
    cases b with
    | false => exact .bareKeyChar (by decide)
    | true => exact .bareKeyChar (by decide)
  | texts ss =>
    have hbracket : ∀ {cs}, Solid ('[' :: cs) := .cons rfl
    match ss with
    | [] | [_] | _ :: _ :: _ => exact hbracket

theorem IsBareKey.exists_cons {name : String} (h : IsBareKey name) :
    ∃ c cs, name.toList = c :: cs ∧ isBareKeyChar c = true := by
  have hne : name.toList ≠ [] := fun hnil => h.1 (String.toList_eq_nil_iff.mp hnil)
  obtain ⟨c, cs, hname⟩ := List.exists_cons_of_ne_nil hne
  exact ⟨c, cs, hname, h.2 c (hname ▸ List.mem_cons_self)⟩

/-- A key is read up to the blank behind it. -/
theorem key_bare {name : String} (h : IsBareKey name) (rest : List Char) :
    key (name.toList ++ ' ' :: rest) = .ok (name.toList, ' ' :: rest) := by
  have hend : ∀ c ∈ (' ' :: rest).head?, isBareKeyChar c = false := by
    intro c hc
    obtain rfl := Option.some.inj hc
    decide
  have htake := takeWhile_append_of_head h.2 hend
  have hdrop := dropWhile_append_of_head h.2 hend
  obtain ⟨c, cs, hname, hc⟩ := h.exists_cons
  rw [hname, List.cons_append] at htake hdrop ⊢
  unfold key
  split
  next heq => cases heq; cases hc
  next heq => cases heq; cases hc
  next => simp only [htake, hdrop, List.isEmpty_cons, Bool.false_eq_true, if_false]

/-- A line begins with its key. -/
theorem settingLine_cons {e : String × Value} (h : IsBareKey e.1) :
    ∃ c cs, settingLine e = c :: cs ∧ isBareKeyChar c = true := by
  obtain ⟨c, cs, hname, hc⟩ := h.exists_cons
  exact ⟨c, _, by rw [settingLine, hname]; rfl, hc⟩

/-- A line is read as the setting that it was written for. -/
theorem setting_line {e : String × Value} (hbare : IsBareKey e.1) (hfits : e.2.Fits)
    (rest : List Char) : setting (settingLine e ++ rest) = .ok (e, '\n' :: rest) := by
  have hwritten : settingLine e ++ rest =
      e.1.toList ++ ' ' :: '=' :: ' ' :: (e.2.write ++ '\n' :: rest) := by
    simp [settingLine]
  have hblanks : skipBlanks (' ' :: '=' :: ' ' :: (e.2.write ++ '\n' :: rest)) =
      '=' :: ' ' :: (e.2.write ++ '\n' :: rest) := rfl
  have hvalue : skipBlanks (' ' :: (e.2.write ++ '\n' :: rest)) = e.2.write ++ '\n' :: rest :=
    skipBlanks_solid (solid_write _ _)
  rw [hwritten, setting, key_bare hbare]
  simp only [hblanks, hvalue, value_write hfits Stop.lineEnd, String.ofList_toList]

/-- The settings in front do not hold the key of a later one. -/
theorem Plain.lookup_eq_none {e : String × Value} (h : Plain (before ++ e :: document)) :
    before.lookup e.1 = none := by
  rw [List.lookup_eq_none_iff]
  intro other hother
  have hdistinct := h.distinct
  rw [List.map_append, List.nodup_append] at hdistinct
  exact bne_iff_ne.mpr
    (hdistinct.2.2 other.1 (List.mem_map_of_mem hother) e.1 List.mem_cons_self).symm

/-- A setting on its line is added to those in front. -/
theorem settings_cons {e : String × Value} (hbare : IsBareKey e.1) (hfits : e.2.Fits)
    (hnew : before.lookup e.1 = none) (rest : List Char) :
    settings (fuel + 1) before (settingLine e ++ rest) = settings fuel (before ++ [e]) rest := by
  have hsetting := setting_line hbare hfits rest
  have hend : skipComment (skipBlanks ('\n' :: rest)) = '\n' :: rest := rfl
  obtain ⟨c, cs, hwritten, hc⟩ := settingLine_cons hbare
  rw [hwritten, List.cons_append] at hsetting ⊢
  rw [settings, skipLines_solid (.bareKeyChar hc)]
  simp only [hsetting, hnew, Option.isSome_none, Bool.false_eq_true, if_false, hend, afterNewline?]

/-- Lines of settings, behind the settings that are read already. -/
theorem settings_lines (hplain : Plain (before ++ document)) (hfuel : document.length < fuel) :
    settings fuel before (document.flatMap settingLine) = .ok (before ++ document) := by
  induction document generalizing before fuel with
  | nil =>
    obtain ⟨fuel, rfl⟩ := Nat.exists_eq_add_one.mpr hfuel
    simp [settings, skipLines]
  | cons e document ih =>
    obtain ⟨fuel, rfl⟩ := Nat.exists_eq_add_one.mpr (Nat.zero_lt_of_lt hfuel)
    have he : e ∈ before ++ e :: document := by simp
    have happend : before ++ e :: document = before ++ [e] ++ document := by simp
    rw [List.flatMap_cons,
      settings_cons (hplain.bare e he) (hplain.fits e he) hplain.lookup_eq_none]
    rw [happend] at hplain ⊢
    exact ih hplain (Nat.lt_of_succ_lt_succ hfuel)

/-- A document does not begin with a mark of its encoding. -/
theorem skipMark_lines (h : Plain document) :
    skipMark (document.flatMap settingLine) = document.flatMap settingLine := by
  cases document with
  | nil => rfl
  | cons e document =>
    obtain ⟨c, cs, hwritten, hc⟩ := settingLine_cons (h.bare e List.mem_cons_self)
    rw [List.flatMap_cons, hwritten]
    unfold skipMark
    split
    next heq => cases heq; cases hc
    next => rfl

/-- **A document is read as it was written.** -/
theorem read_write (h : Plain document) : read (write document) = .ok document := by
  have hwritten : (write document).toList = document.flatMap settingLine := by
    rw [write, String.toList_ofList]
    rfl
  have hlength := length_le_flatMap (f := settingLine) (fun e => by simp [settingLine]) document
  have hsettings : settings ((document.flatMap settingLine).length + 1) []
      (document.flatMap settingLine) = .ok document :=
    settings_lines h (Nat.lt_succ_of_le hlength)
  simp only [read, hwritten, skipMark_lines h, hsettings]

end TemplateServer.Toml
