/-!
# Cutting lists at delimiters

A path, a query string and a dotted variable name are all read by cutting a list at delimiters.
The cuts here are written without accumulators, so that each one unfolds along its list:

* `pieces` cuts at every delimiter and always answers at least one piece;
* `cut` cuts at the first delimiter only, and says whether there was one;
* `suffixFrom?` drops a list down to the first place where a given text starts.

`flatten_pieces` and `cut_append` say that nothing but the delimiters is lost.
-/

namespace TemplateServer.Text

variable {α : Type}

/-- Puts `x` in front of the first piece. -/
def consFirst (x : α) : List (List α) → List (List α)
  | [] => [[x]]
  | q :: qs => (x :: q) :: qs

/-- The pieces of a list between the delimiters, in order; empty pieces are kept. -/
def pieces (isDelim : α → Bool) : List α → List (List α)
  | [] => [[]]
  | x :: xs => if isDelim x then [] :: pieces isDelim xs else consFirst x (pieces isDelim xs)

/-- Cuts a list at its first delimiter: what stands before it, and what follows if there is one. -/
def cut (isDelim : α → Bool) : List α → List α × Option (List α)
  | [] => ([], none)
  | x :: xs =>
    if isDelim x then ([], some xs)
    else
      let (before, after) := cut isDelim xs
      (x :: before, after)

/-- The longest suffix that starts with `needle`: the list from the first occurrence on. -/
def suffixFrom? [BEq α] (needle : List α) : List α → Option (List α)
  | [] => if needle.isEmpty then some [] else none
  | x :: xs => if needle.isPrefixOf (x :: xs) then some (x :: xs) else suffixFrom? needle xs

/-- Joins pieces with a delimiter between each two. -/
def joinWith (delim : α) : List (List α) → List α
  | [] => []
  | [p] => p
  | p :: q :: ps => p ++ delim :: joinWith delim (q :: ps)

theorem consFirst_ne_nil (x : α) (ps : List (List α)) : consFirst x ps ≠ [] := by
  cases ps <;> exact List.cons_ne_nil _ _

/-- A list has at least one piece. -/
theorem pieces_ne_nil (isDelim : α → Bool) (xs : List α) : pieces isDelim xs ≠ [] := by
  cases xs with
  | nil => exact List.cons_ne_nil _ _
  | cons x xs =>
    unfold pieces
    split
    · exact List.cons_ne_nil _ _
    · exact consFirst_ne_nil x _

theorem flatten_consFirst (x : α) (ps : List (List α)) :
    (consFirst x ps).flatten = x :: ps.flatten := by
  cases ps <;> simp [consFirst]

/-- Cutting loses the delimiters and nothing else. -/
theorem flatten_pieces (isDelim : α → Bool) (xs : List α) :
    (pieces isDelim xs).flatten = xs.filter (fun x => !isDelim x) := by
  induction xs with
  | nil => simp [pieces]
  | cons x xs ih =>
    by_cases h : isDelim x = true <;> simp [pieces, flatten_consFirst, h, ih]

/-- No piece holds a delimiter. -/
theorem not_isDelim_of_mem_pieces {isDelim : α → Bool} {xs p : List α} {x : α}
    (hp : p ∈ pieces isDelim xs) (hx : x ∈ p) : isDelim x = false := by
  have : x ∈ (pieces isDelim xs).flatten := List.mem_flatten.2 ⟨p, hp, hx⟩
  rw [flatten_pieces, List.mem_filter] at this
  simpa using this.2

/-- The two sides of a cut, with the delimiter between them if there was one, make up the list. -/
theorem cut_append (isDelim : α → Bool) (xs : List α) :
    (∃ d ys, isDelim d = true ∧ (cut isDelim xs).2 = some ys ∧ (cut isDelim xs).1 ++ d :: ys = xs) ∨
      ((cut isDelim xs).2 = none ∧ (cut isDelim xs).1 = xs) := by
  induction xs with
  | nil => simp [cut]
  | cons x xs ih =>
    by_cases h : isDelim x = true
    · exact .inl ⟨x, xs, h, by simp [cut, h], by simp [cut, h]⟩
    · rcases ih with ⟨d, ys, hd, hcut, happ⟩ | ⟨hcut, happ⟩
      · exact .inl ⟨d, ys, hd, by simp [cut, h, hcut], by simp [cut, h, happ]⟩
      · exact .inr ⟨by simp [cut, h, hcut], by simp [cut, h, happ]⟩

/-- What follows the first delimiter is shorter than the list. -/
theorem length_lt_of_cut {isDelim : α → Bool} {xs ys : List α} (h : (cut isDelim xs).2 = some ys) :
    ys.length < xs.length := by
  rcases cut_append isDelim xs with ⟨d, zs, _, hcut, happ⟩ | ⟨hcut, _⟩
  · rw [hcut, Option.some.injEq] at h
    subst h
    rw [← happ]
    simp
    omega
  · simp [hcut] at h

end TemplateServer.Text
