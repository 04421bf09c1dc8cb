import TemplateServer.Text.Pieces

/-!
# Cutting and joining

A text that was joined from pieces without delimiters is cut into those pieces again
(`pieces_joinWith`), so different lists of pieces are joined to different texts.
-/

namespace TemplateServer.Text

variable {α : Type} {isDelim : α → Bool}

theorem consFirst_append {ps : List (List α)} (x : α) (qs : List (List α)) (h : ps ≠ []) :
    consFirst x (ps ++ qs) = consFirst x ps ++ qs := by
  cases ps with
  | nil => exact absurd rfl h
  | cons p ps => rfl

theorem pieces_cons (x : α) (xs : List α) :
    pieces isDelim (x :: xs) =
      if isDelim x then [] :: pieces isDelim xs else consFirst x (pieces isDelim xs) := rfl

/-- A delimiter separates the pieces before it from those after it. -/
theorem pieces_append (xs ys : List α) {d : α} (hd : isDelim d = true) :
    pieces isDelim (xs ++ d :: ys) = pieces isDelim xs ++ pieces isDelim ys := by
  induction xs with
  | nil => simp [pieces, hd]
  | cons x xs ih =>
    rw [List.cons_append, pieces_cons, pieces_cons]
    by_cases hx : isDelim x = true
    · rw [if_pos hx, if_pos hx, ih]
      rfl
    · rw [if_neg hx, if_neg hx, ih, consFirst_append x _ (pieces_ne_nil isDelim xs)]

/-- A text without delimiters is one piece. -/
theorem pieces_eq_singleton {xs : List α} (h : ∀ x ∈ xs, isDelim x = false) :
    pieces isDelim xs = [xs] := by
  induction xs with
  | nil => rfl
  | cons x xs ih =>
    have hx : ¬ isDelim x = true := by
      rw [h x List.mem_cons_self]
      exact Bool.false_ne_true
    rw [pieces_cons, if_neg hx, ih fun y hy => h y (List.mem_cons_of_mem _ hy)]
    rfl

/-- A list without delimiters is not cut. -/
theorem cut_eq_self {xs : List α} (h : ∀ x ∈ xs, isDelim x = false) :
    cut isDelim xs = (xs, none) := by
  rcases cut_append isDelim xs with ⟨d, ys, hd, -, happ⟩ | ⟨hafter, hbefore⟩
  · have hmem : d ∈ xs := by rw [← happ]; simp
    rw [h d hmem] at hd
    cases hd
  · exact Prod.ext hbefore hafter

/-- What stands before the first delimiter does not depend on what follows a delimiter. -/
theorem cut_append_cons_fst (xs ys : List α) {d : α} (hd : isDelim d = true) :
    (cut isDelim (xs ++ d :: ys)).1 = (cut isDelim xs).1 := by
  induction xs with
  | nil => simp [cut, hd]
  | cons x xs ih =>
    rw [List.cons_append]
    by_cases hx : isDelim x = true
    · simp [cut, hx]
    · simp [cut, hx, ih]

theorem joinWith_cons_cons (delim : α) (p q : List α) (ps : List (List α)) :
    joinWith delim (p :: q :: ps) = p ++ delim :: joinWith delim (q :: ps) := rfl

/-- A joined text starts with its first piece. -/
theorem joinWith_cons_prefix (delim : α) (p : List α) (ps : List (List α)) :
    p <+: joinWith delim (p :: ps) := by
  cases ps with
  | nil => exact List.prefix_rfl
  | cons q ps => exact List.prefix_append p _

/-- What was joined from pieces is cut into them again. -/
theorem pieces_joinWith {delim : α} {ps : List (List α)} (hne : ps ≠ [])
    (hdelim : isDelim delim = true) (h : ∀ p ∈ ps, ∀ x ∈ p, isDelim x = false) :
    pieces isDelim (joinWith delim ps) = ps := by
  induction ps with
  | nil => exact absurd rfl hne
  | cons p ps ih =>
    have hp := pieces_eq_singleton (h p List.mem_cons_self)
    cases ps with
    | nil => exact hp
    | cons q ps =>
      rw [joinWith_cons_cons, pieces_append _ _ hdelim, hp,
        ih (by simp) fun r hr => h r (List.mem_cons_of_mem _ hr)]
      rfl

/-- A joined text holds the characters of its pieces, and delimiters. -/
theorem mem_joinWith {delim x : α} {ps : List (List α)} (h : x ∈ joinWith delim ps) :
    x = delim ∨ ∃ p ∈ ps, x ∈ p := by
  induction ps with
  | nil => cases h
  | cons p ps ih =>
    cases ps with
    | nil => exact .inr ⟨p, List.mem_cons_self, h⟩
    | cons q ps =>
      rw [joinWith_cons_cons] at h
      rcases List.mem_append.mp h with hp | hrest
      · exact .inr ⟨p, List.mem_cons_self, hp⟩
      · rcases List.mem_cons.mp hrest with rfl | hrest
        · exact .inl rfl
        · rcases ih hrest with rfl | ⟨r, hr, hx⟩
          · exact .inl rfl
          · exact .inr ⟨r, List.mem_cons_of_mem _ hr, hx⟩

/-- Every character of a piece is in the joined text. -/
theorem mem_joinWith_of_mem {delim x : α} {ps : List (List α)} {p : List α} (hp : p ∈ ps)
    (hx : x ∈ p) : x ∈ joinWith delim ps := by
  induction ps with
  | nil => cases hp
  | cons q ps ih =>
    cases ps with
    | nil =>
      rw [List.mem_singleton] at hp
      rw [← hp]
      exact hx
    | cons r ps =>
      rw [joinWith_cons_cons]
      rcases List.mem_cons.mp hp with rfl | hp
      · exact List.mem_append_left _ hx
      · exact List.mem_append_right _ (List.mem_cons_of_mem _ (ih hp))

theorem pieces_eq_splitOnP (isDelim : α → Bool) (xs : List α) :
    pieces isDelim xs = xs.splitOnP isDelim := by
  induction xs with
  | nil => rfl
  | cons x xs ih =>
    rw [pieces_cons, List.splitOnP_cons_eq_if_modifyHead, ih]
    split
    next => rfl
    next =>
      cases hsplit : xs.splitOnP isDelim with
      | nil => exact absurd (ih.trans hsplit) (pieces_ne_nil isDelim xs)
      | cons q qs => rfl

theorem joinWith_eq_intercalate (delim : α) (ps : List (List α)) :
    joinWith delim ps = [delim].intercalate ps := by
  induction ps with
  | nil => rfl
  | cons p ps ih =>
    cases ps with
    | nil => simp [joinWith]
    | cons q ps =>
      rw [joinWith_cons_cons, List.intercalate_cons_cons, ih, List.append_assoc]
      rfl

end TemplateServer.Text
