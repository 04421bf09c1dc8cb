import TemplateServer.Proofs.Text.Pieces

/-!
# The first occurrence of a text

`suffixFrom?` drops a list down to the first place where a text starts. What it answers is the
longest suffix that starts with the text, and it answers none exactly if the text does not occur
(`suffixFrom?_eq_some_iff`, `suffixFrom?_eq_none_iff`).

What follows the first occurrence does not change it (`suffixFrom?_append`), and no occurrence
reaches across a delimiter that the text does not hold (`suffixFrom?_append_cons`). So the first
occurrence in a list of pieces is the first one in the first piece that holds the text.
-/

namespace TemplateServer.Text

variable {α : Type} {needle xs ys zs : List α}

/-- `ys` is the longest suffix of `xs` that starts with `needle`. -/
structure LongestFrom (needle xs ys : List α) : Prop where
  suffix : ys <:+ xs
  starts : needle <+: ys
  longest : ∀ zs, zs <:+ xs → needle <+: zs → zs.length ≤ ys.length

/-- There is one longest suffix at most. -/
theorem LongestFrom.unique (h : LongestFrom needle xs ys) (h' : LongestFrom needle xs zs) :
    ys = zs := by
  have hle := h'.longest ys h.suffix h.starts
  have hge := h.longest zs h'.suffix h'.starts
  exact (List.suffix_of_suffix_length_le h.suffix h'.suffix hle).eq_of_length
    (Nat.le_antisymm hle hge)

/-- A text that goes on past a delimiter that it does not hold ends before the delimiter. -/
theorem prefix_of_prefix_append_cons {d : α} (hd : d ∉ needle) (h : needle <+: xs ++ d :: ys) :
    needle <+: xs := by
  obtain ⟨rest, hrest⟩ := h
  rcases List.append_eq_append_iff.mp hrest with ⟨after, hxs, -⟩ | ⟨extra, hneedle, hextra⟩
  · exact ⟨after, hxs.symm⟩
  · -- what the text has more than `xs` would start with the delimiter
    cases extra with
    | nil =>
      rw [List.append_nil] at hneedle
      exact ⟨[], by rw [hneedle, List.append_nil]⟩
    | cons c extra =>
      obtain ⟨rfl, -⟩ := List.cons.inj hextra
      rw [hneedle] at hd
      exact absurd (List.mem_append_right xs List.mem_cons_self) hd

variable [BEq α] [LawfulBEq α]

theorem suffixFrom?_of_starts (h : needle <+: xs) : suffixFrom? needle xs = some xs := by
  cases xs with
  | nil =>
    rw [List.prefix_nil.mp h]
    rfl
  | cons x xs =>
    unfold suffixFrom?
    rw [if_pos (List.isPrefixOf_iff_prefix.mpr h)]

theorem suffixFrom?_of_not_starts {x : α} (h : ¬ needle <+: x :: xs) :
    suffixFrom? needle (x :: xs) = suffixFrom? needle xs := by
  rw [suffixFrom?, if_neg (fun hp => h (List.isPrefixOf_iff_prefix.mp hp))]

/-- The longest suffix is what is found. -/
theorem longestFrom_of_suffixFrom? (h : suffixFrom? needle xs = some ys) :
    LongestFrom needle xs ys := by
  induction xs with
  | nil =>
    unfold suffixFrom? at h
    split at h
    next hempty =>
      cases h
      rw [List.isEmpty_iff.mp hempty]
      exact ⟨List.suffix_rfl, List.prefix_rfl, fun zs hzs _ => hzs.length_le⟩
    next => cases h
  | cons x xs ih =>
    by_cases hp : needle <+: x :: xs
    · rw [suffixFrom?_of_starts hp] at h
      cases h
      exact ⟨List.suffix_rfl, hp, fun zs hzs _ => hzs.length_le⟩
    · rw [suffixFrom?_of_not_starts hp] at h
      obtain ⟨hsuffix, hstarts, hlongest⟩ := ih h
      refine ⟨hsuffix.trans (List.suffix_cons x xs), hstarts, fun zs hzs hstart => ?_⟩
      -- a suffix of `x :: xs` is the whole, which does not start with the text, or one of `xs`
      rcases List.suffix_cons_iff.mp hzs with rfl | hzs
      · exact absurd hstart hp
      · exact hlongest zs hzs hstart

theorem suffixFrom?_eq_none_iff : suffixFrom? needle xs = none ↔ ¬ needle <:+: xs := by
  induction xs with
  | nil =>
    unfold suffixFrom?
    cases needle with
    | nil => simp
    | cons c needle => simp
  | cons x xs ih =>
    rw [List.infix_cons_iff]
    by_cases hp : needle <+: x :: xs
    · simp [suffixFrom?_of_starts hp, hp]
    · rw [suffixFrom?_of_not_starts hp, ih]
      simp [hp]

theorem suffixFrom?_eq_some_iff : suffixFrom? needle xs = some ys ↔ LongestFrom needle xs ys := by
  refine ⟨longestFrom_of_suffixFrom?, fun h => ?_⟩
  cases hfound : suffixFrom? needle xs with
  | none =>
    have hno := suffixFrom?_eq_none_iff.mp hfound
    exact absurd (h.starts.isInfix.trans h.suffix.isInfix) hno
  | some zs => rw [(longestFrom_of_suffixFrom? hfound).unique h]

/-- What follows the first occurrence does not change where it is. -/
theorem suffixFrom?_append (h : suffixFrom? needle xs = some ys) (zs : List α) :
    suffixFrom? needle (xs ++ zs) = some (ys ++ zs) := by
  induction xs with
  | nil =>
    have hlongest := longestFrom_of_suffixFrom? h
    have hys := List.suffix_nil.mp hlongest.suffix
    subst hys
    rw [List.prefix_nil.mp hlongest.starts]
    exact suffixFrom?_of_starts (List.nil_prefix)
  | cons x xs ih =>
    by_cases hp : needle <+: x :: xs
    · rw [suffixFrom?_of_starts hp] at h
      cases h
      exact suffixFrom?_of_starts (hp.trans (List.prefix_append _ _))
    · rw [suffixFrom?_of_not_starts hp] at h
      -- an occurrence at the head would end within `x :: xs`, since a later one does
      have hlength : needle.length ≤ (x :: xs).length := by
        obtain ⟨hsuffix, hstarts, -⟩ := longestFrom_of_suffixFrom? h
        have hle := hstarts.length_le
        have hle' := hsuffix.length_le
        rw [List.length_cons]
        omega
      have hp' : ¬ needle <+: x :: (xs ++ zs) := fun hp' =>
        hp (List.prefix_of_prefix_length_le hp' (List.prefix_append (x :: xs) zs) hlength)
      rw [List.cons_append, suffixFrom?_of_not_starts hp', ih h]

/-- A part that does not hold the text is passed over, with the delimiter after it. -/
theorem suffixFrom?_append_cons {d : α} (hne : needle ≠ []) (hd : d ∉ needle)
    (h : suffixFrom? needle xs = none) (ys : List α) :
    suffixFrom? needle (xs ++ d :: ys) = suffixFrom? needle ys := by
  induction xs with
  | nil =>
    have hp : ¬ needle <+: d :: ys := by
      intro hp
      have hnil : needle <+: [] := prefix_of_prefix_append_cons hd hp
      exact hne (List.prefix_nil.mp hnil)
    exact suffixFrom?_of_not_starts hp
  | cons x xs ih =>
    have hno := suffixFrom?_eq_none_iff.mp h
    rw [List.infix_cons_iff, not_or] at hno
    have hp : ¬ needle <+: x :: (xs ++ d :: ys) := by
      rw [← List.cons_append]
      exact fun hp => hno.1 (prefix_of_prefix_append_cons hd hp)
    rw [List.cons_append, suffixFrom?_of_not_starts hp]
    exact ih (suffixFrom?_eq_none_iff.mpr hno.2)

/-! ## Pieces -/

section

variable {delim : α} {before pieces : List (List α)} {piece found : List α}

/-- A text that no piece holds does not occur. -/
theorem suffixFrom?_intercalate_eq_none (hne : needle ≠ []) (hd : delim ∉ needle)
    (h : ∀ p ∈ pieces, ¬ needle <:+: p) :
    suffixFrom? needle ([delim].intercalate pieces) = none := by
  induction pieces with
  | nil =>
    rw [suffixFrom?_eq_none_iff]
    exact fun hinfix => hne (List.infix_nil.mp hinfix)
  | cons p ps ih =>
    have hp := suffixFrom?_eq_none_iff.mpr (h p List.mem_cons_self)
    have hps := ih fun q hq => h q (List.mem_cons_of_mem _ hq)
    cases ps with
    | nil =>
      rw [List.intercalate_singleton]
      exact hp
    | cons q ps =>
      rw [List.intercalate_cons_cons, List.append_assoc, List.singleton_append,
        suffixFrom?_append_cons hne hd hp, hps]

/-- The first occurrence is that in the first piece that holds the text. What follows it is the rest
of this piece, and nothing more or a delimiter and other pieces. -/
theorem suffixFrom?_intercalate (hne : needle ≠ []) (hd : delim ∉ needle)
    (hbefore : ∀ p ∈ before, ¬ needle <:+: p) (h : suffixFrom? needle piece = some found)
    (after : List (List α)) :
    ∃ more, suffixFrom? needle ([delim].intercalate (before ++ piece :: after)) =
        some (found ++ more) ∧ (more = [] ∨ ∃ others, more = delim :: others) := by
  induction before with
  | nil =>
    rw [List.nil_append]
    cases after with
    | nil =>
      rw [List.intercalate_singleton]
      exact ⟨[], by rw [h, List.append_nil], .inl rfl⟩
    | cons q after =>
      rw [List.intercalate_cons_cons, List.append_assoc, List.singleton_append]
      exact ⟨_, suffixFrom?_append h _, .inr ⟨_, rfl⟩⟩
  | cons p before ih =>
    have hp := suffixFrom?_eq_none_iff.mpr (hbefore p List.mem_cons_self)
    have hrest := ih fun q hq => hbefore q (List.mem_cons_of_mem _ hq)
    rw [List.cons_append, List.intercalate_cons_of_ne_nil (by simp), List.append_assoc,
      List.singleton_append, suffixFrom?_append_cons hne hd hp]
    exact hrest

end

end TemplateServer.Text
