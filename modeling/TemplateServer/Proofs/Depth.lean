import TemplateServer.Proofs.Identity

/-!
# How deep a path goes

A path is read here without a walk: its steps are the pieces that are neither empty nor `.`, and its
depth after some steps is the number of names among them less the number of `..`. From the depths
alone one can tell where the path leads (`normalize_told_by_depths`): it escapes if the depth falls
below zero, it names nothing if it ends at depth zero, and otherwise the names that are left are
those below whose depth it never falls again.

The walk keeps a trail and takes names off it, so the induction is for every trail. What it takes
off the trail that it started with is the `dip` of the steps, which is counted from their end
(`follow_steps`), and the depths tell the dip (`exists_depth_lt_iff`).
-/

namespace TemplateServer

namespace Identity

/-- The piece of a path that goes to the parent. -/
def parent : List Char := ['.', '.']

/-- The pieces of a path that go somewhere. -/
def steps (path : String) : List (List Char) :=
  (path.toList.splitOnP isSeparator).filter fun piece => piece ≠ [] ∧ piece ≠ ['.']

/-- How many more names than parents are among the first `k` steps. -/
def depth (steps : List (List Char)) (k : Nat) : Int :=
  (steps.take k).countP (· ≠ parent) - (steps.take k).countP (· = parent)

/-- The depth is below zero after some of the steps. -/
def Sinks (steps : List (List Char)) : Prop := ∃ k ≤ steps.length, depth steps k < 0

/-- The step at a place is a name, and the depth is never less than after this step again. -/
def Lasts (steps : List (List Char)) (place : Nat) : Prop :=
  steps[place]? ≠ some parent ∧
    ∀ k ≤ steps.length, place < k → depth steps (place + 1) ≤ depth steps k

instance (steps : List (List Char)) : DecidablePred (Lasts steps) := fun _ =>
  inferInstanceAs (Decidable (_ ∧ _))

/-- The steps that last, in order. -/
def lasting (steps : List (List Char)) : List (List Char) :=
  (steps.zipIdx.filter fun step => Lasts steps step.2).map (·.1)

/-- How many names the steps take off a trail that they are taken from. -/
def dip : List (List Char) → Nat
  | [] => 0
  | step :: steps => if step = parent then dip steps + 1 else dip steps - 1

variable {step : List Char} {steps : List (List Char)}

/-! ## Depths -/

theorem dip_cons (step : List Char) (steps : List (List Char)) :
    dip (step :: steps) = if step = parent then dip steps + 1 else dip steps - 1 := rfl

theorem depth_zero (steps : List (List Char)) : depth steps 0 = 0 := rfl

theorem depth_cons_succ (step : List Char) (steps : List (List Char)) (k : Nat) :
    depth (step :: steps) (k + 1) = (if step = parent then -1 else 1) + depth steps k := by
  unfold depth
  by_cases h : step = parent
  · simp [h]
    omega
  · simp [h]
    omega

/-- After the last step the depth stays. -/
theorem depth_of_length_le {k : Nat} (h : steps.length ≤ k) :
    depth steps k = depth steps steps.length := by
  unfold depth
  rw [List.take_of_length_le h, List.take_length]

/-- The dip is the lowest depth. -/
theorem exists_depth_lt_iff (steps : List (List Char)) (d : Nat) :
    (∃ k, depth steps k < -(d : Int)) ↔ d < dip steps := by
  induction steps generalizing d with
  | nil => simp [depth, dip]
  | cons step steps ih =>
    have hsplit : (∃ k, depth (step :: steps) k < -(d : Int)) ↔
        ∃ k, (if step = parent then -1 else 1) + depth steps k < -(d : Int) := by
      constructor
      · rintro ⟨_ | k, h⟩
        · rw [depth_zero] at h
          omega
        · exact ⟨k, by rw [← depth_cons_succ]; exact h⟩
      · rintro ⟨k, h⟩
        exact ⟨k + 1, by rw [depth_cons_succ]; exact h⟩
    rw [hsplit, dip_cons]
    -- after a parent the others need one less to fall so low, and after a name one more
    by_cases hstep : step = parent
    · simp only [hstep, if_true]
      cases d with
      | zero => exact ⟨fun _ => Nat.succ_pos _, fun _ => ⟨0, by rw [depth_zero]; decide⟩⟩
      | succ d =>
        rw [Nat.add_lt_add_iff_right, ← ih d]
        exact exists_congr fun k => by omega
    · simp only [hstep, if_false]
      rw [show d < dip steps - 1 ↔ d + 1 < dip steps by omega, ← ih (d + 1)]
      exact exists_congr fun k => by omega

/-- A depth below zero is reached while there are steps. -/
theorem sinks_iff (steps : List (List Char)) : Sinks steps ↔ 0 < dip steps := by
  rw [← exists_depth_lt_iff steps 0]
  constructor
  · rintro ⟨k, -, h⟩
    exact ⟨k, h⟩
  · rintro ⟨k, h⟩
    by_cases hk : k ≤ steps.length
    · exact ⟨k, hk, h⟩
    · exact ⟨steps.length, Nat.le_refl _, by rw [depth_of_length_le (by omega)] at h; exact h⟩

/-! ## Steps that last -/

theorem lasts_iff {place : Nat} :
    Lasts steps place ↔
      steps[place]? ≠ some parent ∧ ∀ k, place < k → depth steps (place + 1) ≤ depth steps k := by
  refine and_congr_right fun _ => ⟨fun h k hk => ?_, fun h k _ hk => h k hk⟩
  by_cases hlength : k ≤ steps.length
  · exact h k hlength hk
  · have hk' : depth steps k = depth steps steps.length := depth_of_length_le (by omega)
    rw [hk']
    by_cases hplace : place < steps.length
    · exact h _ (Nat.le_refl _) hplace
    · exact Int.le_of_eq (depth_of_length_le (by omega))

/-- The first step lasts if it is a name and the others do not take it off. -/
theorem lasts_zero : Lasts (step :: steps) 0 ↔ step ≠ parent ∧ dip steps = 0 := by
  have hdip : dip steps = 0 ↔ ∀ k, 0 ≤ depth steps k := by
    have hneg := exists_depth_lt_iff steps 0
    constructor
    · intro hzero k
      by_cases hk : depth steps k < 0
      · have hpos := hneg.mp ⟨k, hk⟩
        omega
      · omega
    · intro h
      by_cases hpos : 0 < dip steps
      · obtain ⟨k, hk⟩ := hneg.mpr hpos
        have hle := h k
        omega
      · omega
  rw [lasts_iff, hdip, List.getElem?_cons_zero, ne_eq, Option.some.injEq]
  refine and_congr_right fun _ => ⟨fun h k => ?_, fun h k hk => ?_⟩
  · have hle := h (k + 1) (Nat.succ_pos k)
    rw [depth_cons_succ, depth_cons_succ, depth_zero] at hle
    omega
  · obtain ⟨k, rfl⟩ := Nat.exists_eq_add_of_lt hk
    rw [depth_cons_succ, depth_cons_succ, depth_zero]
    have hle := h (0 + k)
    omega

/-- What the steps before have done does not matter. -/
theorem lasts_succ {place : Nat} : Lasts (step :: steps) (place + 1) ↔ Lasts steps place := by
  rw [lasts_iff, lasts_iff, List.getElem?_cons_succ]
  refine and_congr_right fun _ => ⟨fun h k hk => ?_, fun h k hk => ?_⟩
  · have hle := h (k + 1) (Nat.succ_lt_succ hk)
    rw [depth_cons_succ, depth_cons_succ] at hle
    omega
  · cases k with
    | zero => cases hk
    | succ k =>
      have hle := h k (Nat.lt_of_succ_lt_succ hk)
      rw [depth_cons_succ, depth_cons_succ]
      omega

theorem lasting_cons (step : List Char) (steps : List (List Char)) :
    lasting (step :: steps) =
      if step ≠ parent ∧ dip steps = 0 then step :: lasting steps else lasting steps := by
  have htail : ((steps.zipIdx 1).filter fun s => Lasts (step :: steps) s.2).map (·.1) =
      lasting steps := by
    unfold lasting
    rw [List.zipIdx_succ, List.filter_map, List.map_map]
    refine congrArg (List.map _) (List.filter_congr fun s _ => ?_)
    exact decide_eq_decide.mpr lasts_succ
  unfold lasting at htail ⊢
  rw [List.zipIdx_cons, List.filter_cons]
  by_cases h : step ≠ parent ∧ dip steps = 0
  · rw [if_pos h, if_pos (decide_eq_true (lasts_zero.mpr h)), List.map_cons, htail]
  · rw [if_neg h, if_neg (by rw [decide_eq_true_eq, lasts_zero]; exact h), htail]

/-- What is left of the names that were taken, and of the trail before. -/
theorem depth_length (steps : List (List Char)) :
    depth steps steps.length = (lasting steps).length - (dip steps : Int) := by
  induction steps with
  | nil => rfl
  | cons step steps ih =>
    rw [List.length_cons, depth_cons_succ, ih, lasting_cons, dip_cons]
    by_cases hstep : step = parent
    · simp [hstep]
      omega
    · by_cases hdip : dip steps = 0
      · simp [hstep, hdip]
        omega
      · simp [hstep, hdip]
        omega

/-! ## Walks -/

/-- **Where a walk leads.** The steps take names off the trail and leave those that last on it. -/
theorem follow_steps (h : ∀ step ∈ steps, step = parent ∨ IsName step) (trail : List Name) :
    (follow trail (steps.map Move.ofPiece)).map (List.map (·.val)) =
      if dip steps ≤ trail.length then
        some ((lasting steps).reverse ++ (trail.map (·.val)).drop (dip steps))
      else none := by
  induction steps generalizing trail with
  | nil => cases trail <;> rfl
  | cons step steps ih =>
    have hrest := ih fun s hs => h s (List.mem_cons_of_mem _ hs)
    rw [List.map_cons, lasting_cons, dip_cons]
    rcases h step List.mem_cons_self with rfl | hname
    · have hup : Move.ofPiece parent = .up := rfl
      rw [hup]
      cases trail with
      | nil => rfl
      | cons name trail =>
        have hfollow : follow (name :: trail) (.up :: steps.map Move.ofPiece) =
            follow trail (steps.map Move.ofPiece) := rfl
        rw [hfollow, hrest]
        simp
    · have hne : step ≠ parent := hname.2.2.1
      rw [Move.ofPiece_name ⟨step, hname⟩, follow_down_cons, hrest]
      cases hdip : dip steps with
      | zero => simp [hne]
      | succ d => simp [hne]

/-- The pieces that stay where they are do not count. -/
theorem follow_filter (pieces : List (List Char)) (trail : List Name) :
    follow trail (pieces.map Move.ofPiece) =
      follow trail
        ((pieces.filter fun piece => piece ≠ [] ∧ piece ≠ ['.']).map Move.ofPiece) := by
  induction pieces generalizing trail with
  | nil => rfl
  | cons piece pieces ih =>
    rw [List.map_cons, List.filter_cons]
    by_cases hgoes : piece ≠ [] ∧ piece ≠ ['.']
    · rw [if_pos (decide_eq_true hgoes), List.map_cons]
      cases Move.ofPiece piece with
      | stay => rw [follow_stay, follow_stay, ih]
      | down name => rw [follow_down_cons, follow_down_cons, ih]
      | up =>
        cases trail with
        | nil => rfl
        | cons name trail => exact ih trail
    · have hstay : Move.ofPiece piece = .stay := by
        rcases Decidable.not_and_iff_or_not.mp hgoes with h | h
        · rw [Decidable.not_not.mp h]
          rfl
        · rw [Decidable.not_not.mp h]
          rfl
      rw [if_neg (by rw [decide_eq_true_eq]; exact hgoes), hstay, follow_stay, ih]

/-- Every step is `..` or a name. -/
theorem parent_or_isName_of_mem_steps {path : String} (h : step ∈ Identity.steps path) :
    step = parent ∨ IsName step := by
  unfold Identity.steps at h
  rw [List.mem_filter, decide_eq_true_eq, ← Text.pieces_eq_splitOnP] at h
  obtain ⟨hpiece, hne, hdot⟩ := h
  by_cases hparent : step = parent
  · exact .inl hparent
  · exact .inr ⟨hne, hdot, hparent, fun c hc => Text.not_isDelim_of_mem_pieces hpiece hc⟩

/-- The walk along a path, by its steps. -/
theorem follow_movesOf (path : String) :
    (follow [] (movesOf path.toList)).map (List.map (·.val)) =
      if dip (Identity.steps path) = 0 then some (lasting (Identity.steps path)).reverse
      else none := by
  have hsteps : ∀ step ∈ Identity.steps path, step = parent ∨ IsName step := fun _ =>
    parent_or_isName_of_mem_steps
  have hwalk := follow_steps hsteps []
  unfold movesOf
  rw [follow_filter, Text.pieces_eq_splitOnP]
  simp only [List.length_nil, Nat.le_zero, List.map_nil, List.drop_nil, List.append_nil] at hwalk
  exact hwalk

theorem text_of_names {i : Identity} {names : List (List Char)}
    (h : i.names.map (·.val) = names) :
    i.text = "/" ++ "/".intercalate (names.map String.ofList) := by
  apply String.toList_inj.mp
  unfold text
  rw [String.toList_ofList, chars_eq, h, Text.joinWith_eq_intercalate, String.toList_append,
    String.toList_intercalate]
  simp

theorem text_inj {i j : Identity} (h : i.text = j.text) : i = j := by
  apply chars_inj
  have hchars := congrArg String.toList h
  unfold text at hchars
  rw [String.toList_ofList, String.toList_ofList] at hchars
  exact hchars

/-- The ways in which a path is followed, by its steps. -/
theorem normalize_cases (raw : String) :
    (0 < dip (Identity.steps raw) ∧ normalize raw = .error (.escapesRoot raw)) ∨
      (dip (Identity.steps raw) = 0 ∧ lasting (Identity.steps raw) = [] ∧
        normalize raw = .error (.noTemplate raw)) ∨
      ∃ i, dip (Identity.steps raw) = 0 ∧ lasting (Identity.steps raw) ≠ [] ∧
        normalize raw = .ok i ∧ i.names.map (·.val) = lasting (Identity.steps raw) := by
  have hwalk := follow_movesOf raw
  unfold normalize
  by_cases hdip : dip (Identity.steps raw) = 0
  · rw [if_pos hdip, Option.map_eq_some_iff] at hwalk
    obtain ⟨trail, hfollow, hnames⟩ := hwalk
    rw [hfollow]
    cases trail with
    | nil => exact .inr (.inl ⟨hdip, List.reverse_eq_nil_iff.mp hnames.symm, rfl⟩)
    | cons name trail =>
      have hlasting : (name :: trail).reverse.map (·.val) = lasting (Identity.steps raw) := by
        rw [List.map_reverse, hnames, List.reverse_reverse]
      refine .inr (.inr ⟨_, hdip, ?_, rfl, hlasting⟩)
      rw [← hlasting]
      simp
  · rw [if_neg hdip, Option.map_eq_none_iff] at hwalk
    rw [hwalk]
    exact .inl ⟨Nat.pos_of_ne_zero hdip, rfl⟩

/-- **Where a path leads is told by its depths.** A path escapes exactly if its depth is below zero
after some steps, it names nothing exactly if it does not escape and ends at depth zero, and
otherwise it leads to the identity of the steps that last. Refusals quote the path as it was
given. -/
theorem normalize_told_by_depths (raw : String) :
    (∀ path, normalize raw = .error (.escapesRoot path) ↔
      path = raw ∧ Sinks (Identity.steps raw)) ∧
    (∀ path, normalize raw = .error (.noTemplate path) ↔
      path = raw ∧ ¬ Sinks (Identity.steps raw) ∧
        depth (Identity.steps raw) (Identity.steps raw).length = 0) ∧
    ∀ identity, normalize raw = .ok identity ↔
      ¬ Sinks (Identity.steps raw) ∧
        depth (Identity.steps raw) (Identity.steps raw).length ≠ 0 ∧
        identity.text = "/" ++ "/".intercalate
          ((lasting (Identity.steps raw)).map String.ofList) := by
  rw [sinks_iff, depth_length]
  rcases normalize_cases raw with ⟨hdip, heq⟩ | ⟨hdip, hnone, heq⟩ | ⟨i, hdip, hsome, heq, hnames⟩
  · rw [heq]
    simp [hdip, eq_comm]
  · rw [heq]
    simp [hdip, hnone, eq_comm]
  · have htext :
        i.text = "/" ++ "/".intercalate ((lasting (Identity.steps raw)).map String.ofList) :=
      text_of_names hnames
    rw [heq, ← htext]
    simp only [hdip, hsome, reduceCtorEq, Nat.lt_irrefl, not_false_eq_true, true_and, and_false,
      Int.natCast_zero, Int.sub_zero, ne_eq, Int.natCast_eq_zero, List.length_eq_zero_iff,
      implies_true, Except.ok.injEq]
    exact fun identity => ⟨fun h => h ▸ rfl, fun h => (text_inj h).symm⟩

/-- The first name is left again and the second one lasts; both slashes separate. -/
example :
    (normalize "/a/../b/./c\\d/../..").map text = .ok "/b" ∧
      lasting (Identity.steps "/a/../b/./c\\d/../..") = [['b']] := by
  constructor
  · rfl
  · decide

end Identity

end TemplateServer
