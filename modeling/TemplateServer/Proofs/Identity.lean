import TemplateServer.Failure
import TemplateServer.Proofs.Text.Pieces

/-!
# Identities and their paths

The path of an identity tells its names (`chars_inj`), and a path that is made of ordinary names
leads to the identity of just these names (`parse_joined`). A path of any pieces leads to none but
some of these pieces (`sublist_of_parse`). Identities are sorted by their paths, so that distinct
ones stand in strict order (`sort_strict`).
-/

namespace TemplateServer

theorem isSeparator_slash : isSeparator '/' = true := rfl

/-! ## Walks -/

theorem follow_stay (trail : List Name) (moves : List Move) :
    follow trail (.stay :: moves) = follow trail moves := by
  cases trail <;> rfl

theorem follow_down_cons (trail : List Name) (name : Name) (moves : List Move) :
    follow trail (.down name :: moves) = follow (name :: trail) moves := by
  cases trail <;> rfl

/-- A piece that leads down is the name that it leads to. -/
theorem Move.eq_of_ofPiece {piece : List Char} {name : Name} (h : ofPiece piece = .down name) :
    name.val = piece := by
  unfold ofPiece at h
  split at h
  next => cases h
  next =>
    split at h
    next => cases h; rfl
    next => cases h

/-- A walk ends on a trail of the names that it started with and of pieces that it took, in their
order. -/
theorem follow_sublist {trail trail' : List Name} {pieces : List (List Char)}
    (h : follow trail (pieces.map Move.ofPiece) = some trail') :
    (trail'.reverse.map (·.val)).Sublist (trail.reverse.map (·.val) ++ pieces) := by
  -- every piece is skipped, put on the trail, or takes the last name off again
  induction pieces generalizing trail with
  | nil =>
    obtain rfl : trail = trail' := by cases trail <;> exact Option.some.inj h
    exact List.sublist_append_left _ _
  | cons piece pieces ih =>
    rw [List.map_cons] at h
    cases hmove : Move.ofPiece piece with
    | stay =>
      rw [hmove, follow_stay] at h
      exact (ih h).trans ((List.sublist_cons_self piece pieces).append_left _)
    | up =>
      rw [hmove] at h
      cases trail with
      | nil => cases h
      | cons name trail =>
        refine (ih h).trans ?_
        rw [List.reverse_cons, List.map_append, List.append_assoc]
        refine List.Sublist.append_left ?_ _
        exact (List.sublist_cons_self piece pieces).trans (List.sublist_append_right _ _)
    | down name =>
      rw [hmove, follow_down_cons] at h
      have hrest := ih h
      rw [List.reverse_cons, List.map_append, List.append_assoc] at hrest
      rw [← Move.eq_of_ofPiece hmove]
      exact hrest

/-- How far below its start a walk ends, if it goes on above the root. -/
def height : List Move → Int
  | [] => 0
  | .stay :: moves => height moves
  | .up :: moves => height moves - 1
  | .down _ :: moves => height moves + 1

/-- A beginning of the moves is empty, or it begins with the first move. -/
theorem exists_take_cons {P : List Move → Prop} {m : Move} {moves : List Move} :
    (∃ n, P ((m :: moves).take n)) ↔ P [] ∨ ∃ n, P (m :: moves.take n) := by
  constructor
  · rintro ⟨_ | n, h⟩
    · exact .inl h
    · exact .inr ⟨n, h⟩
  · rintro (h | ⟨n, h⟩)
    · exact ⟨0, h⟩
    · exact ⟨n + 1, h⟩

/-- A walk fails where it has gone up more often than there were places to leave. -/
theorem follow_eq_none_iff (trail : List Name) (moves : List Move) :
    follow trail moves = none ↔ ∃ n, trail.length + height (moves.take n) < 0 := by
  induction moves generalizing trail with
  | nil =>
    have hend : follow trail [] = some trail := by cases trail <;> rfl
    rw [hend]
    simp [height]
  | cons move moves ih =>
    rw [exists_take_cons (P := fun ms => (trail.length : Int) + height ms < 0)]
    have hstart : ¬ (trail.length : Int) + height [] < 0 := by simp [height]
    simp only [hstart, false_or]
    cases move with
    | stay => rw [follow_stay, ih]; rfl
    | down name =>
      rw [follow_down_cons, ih]
      refine exists_congr fun n => ?_
      simp only [height, List.length_cons]
      omega
    | up =>
      cases trail with
      | nil =>
        -- there is no parent to go to, and after this one move the height is below zero
        have hfollow : follow [] (.up :: moves) = none := rfl
        rw [hfollow]
        exact ⟨fun _ => ⟨0, by simp [height]⟩, fun _ => rfl⟩
      | cons name trail =>
        have hup : follow (name :: trail) (.up :: moves) = follow trail moves := rfl
        rw [hup, ih]
        refine exists_congr fun n => ?_
        simp only [height, List.length_cons]
        omega

/-- Where a walk ends. -/
theorem length_of_follow {trail trail' : List Name} {moves : List Move}
    (h : follow trail moves = some trail') :
    (trail'.length : Int) = trail.length + height moves := by
  induction moves generalizing trail with
  | nil =>
    obtain rfl : trail = trail' := by cases trail <;> exact Option.some.inj h
    simp [height]
  | cons move moves ih =>
    cases move with
    | stay => rw [follow_stay] at h; exact ih h
    | down name =>
      rw [follow_down_cons] at h
      have hlength := ih h
      rw [List.length_cons] at hlength
      unfold height
      omega
    | up =>
      cases trail with
      | nil => cases h
      | cons name trail =>
        have hrest : follow trail moves = some trail' := h
        have hlength := ih hrest
        rw [List.length_cons]
        unfold height
        omega

namespace Identity

variable {i j : Identity}

/-- No name of an identity holds a separator. -/
theorem not_isSeparator {name : Name} {c : Char} (hc : c ∈ name.val) : isSeparator c = false :=
  name.property.2.2.2 c hc

/-- The path of an identity is a slash and its relative path. -/
theorem chars_eq (i : Identity) : i.chars = '/' :: Text.joinWith '/' (i.names.map (·.val)) := by
  obtain ⟨names, hne⟩ := i
  unfold chars
  dsimp only
  induction names with
  | nil => exact absurd rfl hne
  | cons name names ih =>
    cases names with
    | nil => simp [Text.joinWith]
    | cons next names =>
      rw [List.flatMap_cons, ih (by simp)]
      rfl

/-- The relative path is the names with slashes between them. -/
theorem relative_toList (i : Identity) :
    i.relative.toList = Text.joinWith '/' (i.names.map (·.val)) := String.toList_ofList

theorem map_val_ne_nil (i : Identity) : i.names.map (·.val) ≠ [] :=
  fun h => i.names_ne_nil (List.map_eq_nil_iff.mp h)

/-- An identity is told by its names as text. -/
theorem eq_of_names (h : i.names.map (·.val) = j.names.map (·.val)) : i = j := by
  obtain ⟨names, hne⟩ := i
  obtain ⟨names', hne'⟩ := j
  have hnames : names = names' := (List.map_inj_right fun _ _ => Subtype.ext).mp h
  cases hnames
  rfl

/-- The parts of an identity are names. -/
theorem isName_of_mem {i : Identity} : ∀ name ∈ i.names.map (·.val), IsName name := by
  intro name hname
  obtain ⟨n, -, rfl⟩ := List.mem_map.mp hname
  exact n.property

/-- The relative path cut at its separators is the names. -/
theorem pieces_relative (i : Identity) :
    Text.pieces isSeparator i.relative.toList = i.names.map (·.val) := by
  rw [relative_toList]
  refine Text.pieces_joinWith i.map_val_ne_nil isSeparator_slash ?_
  intro cs hcs c hc
  obtain ⟨name, -, rfl⟩ := List.mem_map.mp hcs
  exact not_isSeparator hc

/-- An identity is determined by its relative path. -/
theorem relative_inj (h : i.relative = j.relative) : i = j := by
  apply eq_of_names
  rw [← pieces_relative, h, pieces_relative]

/-- Identities with the same path are the same. -/
theorem chars_inj (h : i.chars = j.chars) : i = j := by
  rw [chars_eq, chars_eq] at h
  apply relative_inj
  apply String.toList_inj.mp
  rw [relative_toList, relative_toList]
  exact (List.cons.inj h).2

/-- There is no backslash in a relative path. -/
theorem no_backslash (i : Identity) : '\x5c' ∉ i.relative.toList := by
  intro hmem
  rw [relative_toList] at hmem
  rcases Text.mem_joinWith hmem with heq | ⟨cs, hcs, hc⟩
  · cases heq
  · obtain ⟨name, -, rfl⟩ := List.mem_map.mp hcs
    have hno := not_isSeparator hc
    cases hno

/-! ## Parsing -/

/-- A trail that leads to names is the identity with these names. -/
theorem ofTrail?_reverse {names : List Name} (hne : names ≠ []) :
    ofTrail? names.reverse = some ⟨names, hne⟩ := by
  generalize hrev : names.reverse = trail
  have hnames : names = trail.reverse := by rw [← hrev, List.reverse_reverse]
  cases hnames
  cases trail with
  | nil => exact absurd rfl hne
  | cons name trail => rfl

/-- The relative path of an identity goes down its names. -/
theorem movesOf_relative (i : Identity) : movesOf i.relative.toList = i.names.map .down := by
  unfold movesOf
  rw [pieces_relative, List.map_map]
  exact List.map_congr_left fun name _ => Move.ofPiece_name name

/-- The path of an identity stays at the root for its first slash. -/
theorem movesOf_text (i : Identity) : movesOf i.text.toList = .stay :: i.names.map .down := by
  have hrelative := i.movesOf_relative
  rw [relative_toList] at hrelative
  unfold text movesOf
  rw [String.toList_ofList, chars_eq, Text.pieces, if_pos isSeparator_slash, List.map_cons]
  exact congrArg (Move.stay :: ·) hrelative

/-- A path leads to an identity if the walk along it ends on the trail of its names. -/
theorem normalize_eq_ok_iff {path : String} :
    normalize path = .ok i ↔ follow [] (movesOf path.toList) = some i.names.reverse := by
  unfold normalize
  constructor
  · intro h
    cases hfollow : follow [] (movesOf path.toList) with
    | none => rw [hfollow] at h; cases h
    | some trail =>
      rw [hfollow] at h
      cases trail with
      | nil => cases h
      | cons name trail =>
        cases h
        exact congrArg some (List.reverse_reverse _).symm
  · intro h
    rw [h]
    dsimp only
    rw [ofTrail?_reverse i.names_ne_nil]

/-- The path of an identity leads to the identity. -/
theorem normalize_text (i : Identity) : normalize i.text = .ok i := by
  rw [normalize_eq_ok_iff, movesOf_text, follow_stay, follow_down, List.append_nil]

/-- So does its path without the first slash. -/
theorem normalize_relative (i : Identity) : normalize i.relative = .ok i := by
  rw [normalize_eq_ok_iff, movesOf_relative, follow_down, List.append_nil]

/-- What is parsed is what is normalized. -/
theorem parse_eq_ok_iff {path : String} : parse path = .ok i ↔ normalize path = .ok i := by
  unfold parse
  cases normalize path <;> simp

/-- A path of ordinary names leads to the identity of these names. -/
theorem parse_joined {names : List (List Char)} (hne : names ≠ []) (h : ∀ cs ∈ names, IsName cs) :
    ∃ i, parse (String.ofList (Text.joinWith '/' names)) = .ok i ∧ i.names.map (·.val) = names := by
  obtain ⟨names, rfl⟩ : ∃ ns : List Name, ns.map (·.val) = names :=
    ⟨names.attach.map fun cs => ⟨cs.1, h cs.1 cs.2⟩, by simp⟩
  have hne' : names ≠ [] := fun hnil => hne (by rw [hnil]; rfl)
  exact ⟨⟨names, hne'⟩, parse_eq_ok_iff.mpr (normalize_relative ⟨names, hne'⟩), rfl⟩

/-- The names of an identity are pieces of the path that it was made of. -/
theorem sublist_of_parse {path : String} {i : Identity} (h : parse path = .ok i) :
    (i.names.map (·.val)).Sublist (Text.pieces isSeparator path.toList) := by
  have hfollow := normalize_eq_ok_iff.mp (parse_eq_ok_iff.mp h)
  have hsublist := follow_sublist hfollow
  rw [List.reverse_reverse] at hsublist
  exact hsublist

/-- Somewhere a path goes above the document root. -/
def EscapesRoot (path : String) : Prop := ∃ n, height ((movesOf path.toList).take n) < 0

/-- A path ends where it has started. -/
def EndsAtRoot (path : String) : Prop := height (movesOf path.toList) = 0

/-- The paths that lead to no identity. -/
theorem normalize_eq_error_iff {path : String} {e : PathError} :
    normalize path = .error e ↔
      (EscapesRoot path ∧ e = .escapesRoot path) ∨
        ¬ EscapesRoot path ∧ EndsAtRoot path ∧ e = .noTemplate path := by
  have hescape : follow [] (movesOf path.toList) = none ↔ EscapesRoot path := by
    rw [follow_eq_none_iff]
    simp [EscapesRoot]
  unfold normalize
  cases hfollow : follow [] (movesOf path.toList) with
  | none =>
    have hescapes := hescape.mp hfollow
    constructor
    · intro h; cases h; exact .inl ⟨hescapes, rfl⟩
    · rintro (⟨-, rfl⟩ | ⟨hno, -, -⟩)
      · rfl
      · exact absurd hescapes hno
  | some trail =>
    have hstays : ¬ EscapesRoot path := by
      rw [← hescape, hfollow]
      simp
    -- a walk that never leaves the root ends as high as its moves say
    have hends : (trail.length : Int) = height (movesOf path.toList) := by
      have hlength := length_of_follow hfollow
      simpa using hlength
    cases trail with
    | nil =>
      constructor
      · intro h; cases h; exact .inr ⟨hstays, hends.symm, rfl⟩
      · rintro (⟨hescapes, -⟩ | ⟨-, -, rfl⟩)
        · exact absurd hescapes hstays
        · rfl
    | cons name trail =>
      constructor
      · intro h; cases h
      · rintro (⟨hescapes, -⟩ | ⟨-, hroot, -⟩)
        · exact absurd hescapes hstays
        · unfold EndsAtRoot at hroot
          rw [List.length_cons] at hends
          omega

/-- An empty path leads to no identity. -/
theorem parse_empty (i : Identity) : parse "" ≠ .ok i := by
  intro h
  cases h

/-! ## Order -/

/-- Identities are ordered by their characters. -/
theorem le_iff : le i j = true ↔ ¬ j.chars < i.chars := by
  unfold le
  simp

theorem le_trans {k : Identity} (h : le i j = true) (h' : le j k = true) : le i k = true := by
  rw [le_iff, List.not_lt] at h h' ⊢
  exact List.le_trans h h'

theorem le_total (i j : Identity) : (le i j || le j i) = true := by
  rw [Bool.or_eq_true, le_iff, le_iff, List.not_lt, List.not_lt]
  exact List.le_total i.chars j.chars

theorem le_antisymm (h : le i j = true) (h' : le j i = true) : i = j := by
  rw [le_iff, List.not_lt] at h h'
  exact chars_inj (List.le_antisymm h h')

/-- Sorting loses no identity and adds none. -/
theorem mem_sort {ids : List Identity} : i ∈ sort ids ↔ i ∈ ids := List.mem_mergeSort

/-- Distinct identities are sorted in strict order. -/
theorem sort_strict {ids : List Identity} (h : ids.Nodup) :
    (sort ids).Pairwise fun i j => i.chars < j.chars := by
  have hsorted : (sort ids).Pairwise fun i j => le i j = true :=
    @List.pairwise_mergeSort Identity le (fun _ _ _ => le_trans) le_total ids
  have hnodup : (sort ids).Nodup := (List.mergeSort_perm ids le).nodup_iff.mpr h
  -- in sorted order the one before is not greater, and it is not the same
  refine (hsorted.and hnodup).imp fun {i j} hij => ?_
  obtain ⟨hle, hne⟩ := hij
  by_cases hlt : i.chars < j.chars
  · exact hlt
  · rw [le_iff, List.not_lt] at hle
    exact absurd (chars_inj (List.le_antisymm hle (List.not_lt.mp hlt))) hne

end Identity

end TemplateServer
